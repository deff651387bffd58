import Mathlib.Data.List.Find
import PseudoAsm.Proofs.Displacement
import PseudoAsm.Proofs.Table.Builtin
import PseudoAsm.Proofs.Text.Lowercase

/-!
# Operands matter only through their values

A form is selected by the operands as they are written, and a label is written otherwise than a
numeral. Still a numeral may take the place of any other operand that leads to the same value: where
a form of the built-in table wants a label it takes a numeral, too, and where it wants an immediate
the value decides. It has to be seen that no form in front of the selected one takes the numeral
instead. This is so because the forms that share a mnemonic want labels at the same places.

Once the form is selected, the statement and the reworded one are expanded at the same site, up to
the spelling of the values, which no marker shows.
-/

namespace PseudoAsm

/-- An operand and what may be written for it: a numeral of the value of the immediate, or of the
address of the label. -/
inductive Operand.SameValue (scope : Scope) : Text → Text → Prop
  | unchanged (operand : Text) : SameValue scope operand operand
  | numeral {operand other : Text} {value : Word}
      (leads : Operand.target? scope operand = some value)
      (spelt : Numeral.word? other = some value) : SameValue scope operand other

/-- A statement and what may be written for it: the mnemonic in other case, and the same values of
the operands. -/
structure Statement.Reworded (scope : Scope) (statement other : Statement) : Prop where
  mnemonic : other.mnemonic.map Char.toLower = statement.mnemonic.map Char.toLower
  operands : List.Forall₂ (Operand.SameValue scope) statement.operands other.operands

namespace Operand

variable {scope : Scope} {sample operand other : Text}

/-- What has an address is a label or an immediate. -/
theorem shape_of_target? {value : Word} (leads : target? scope operand = some value) :
    shape operand = .label ∨ shape operand = .immediate value := by
  unfold target? at leads
  split at leads
  · next label => exact .inl label
  · next given immediate =>
      cases leads
      exact .inr immediate
  · cases leads

theorem accepts_eq_of_immediate {value : Word} (immediate : shape operand = .immediate value)
    (otherImmediate : shape other = .immediate value) :
    accepts sample operand = accepts sample other := by
  rw [Bool.eq_iff_iff]
  cases sampleShape : shape sample with
  | delimiter =>
      have notOperand : operand ≠ sample := by
        rintro rfl
        simp [immediate] at sampleShape
      have notOther : other ≠ sample := by
        rintro rfl
        simp [otherImmediate] at sampleShape
      simp [accepts_iff_of_delimiter sampleShape, notOperand, notOther]
  | register => simp [accepts_iff_of_register sampleShape, immediate, otherImmediate]
  | immediate expected =>
      simp [accepts_iff_of_immediate sampleShape, immediate, otherImmediate]
  | label => simp [accepts_iff_of_label sampleShape, immediate, otherImmediate]

/-- A numeral is taken wherever an operand of the same value is. -/
theorem SameValue.accepts_of_accepts (same : SameValue scope operand other)
    (accepted : accepts sample operand = true) : accepts sample other = true := by
  cases same with
  | unchanged => exact accepted
  | @numeral _ value leads spelt =>
      have immediate := shape_eq_immediate_iff.2 spelt
      rcases shape_of_target? leads with label | sameShape
      · exact (accepts_iff_of_label (shape_eq_label_of_accepts accepted label)).2
          (.inr ⟨value, immediate⟩)
      · rwa [← accepts_eq_of_immediate sameShape immediate]

/-- Where a label would be taken, an operand is taken if a numeral of its value is. -/
theorem SameValue.accepts_of_accepts_other (same : SameValue scope operand other)
    (labelTaken : shape operand = .label → shape sample = .label)
    (accepted : accepts sample other = true) : accepts sample operand = true := by
  cases same with
  | unchanged => exact accepted
  | numeral leads spelt =>
      have immediate := shape_eq_immediate_iff.2 spelt
      rcases shape_of_target? leads with label | sameShape
      · exact (accepts_iff_of_label (labelTaken label)).2 (.inl label)
      · rwa [accepts_eq_of_immediate sameShape immediate]

/-- A numeral that is written for an operand leads to a word for the same value. -/
theorem SameValue.exists_resolveOperand (same : SameValue scope operand other) {word : Text}
    (accepted : accepts sample operand = true)
    (resolved : Statement.resolveOperand scope operand = .ok word) :
    ∃ moved, Statement.resolveOperand scope other = .ok moved ∧
      MovedWord 0 (shape sample) word moved := by
  have stands : MovedWord 0 (shape sample) word word :=
    movedWord_self accepted resolved fun _ => rfl
  cases same with
  | unchanged => exact ⟨word, resolved, stands⟩
  | @numeral _ value leads otherSpelt =>
      have immediate := shape_eq_immediate_iff.2 otherSpelt
      have notLabel : shape other ≠ .label := by simp [immediate]
      refine ⟨other, Statement.resolveOperand_of_ne_label notLabel, ?_⟩
      rcases Statement.exists_resolveOperand_of_target? leads with ⟨known, knownOk, spelt⟩
      rw [resolved, Except.ok.injEq] at knownOk
      subst knownOk
      have notCopied : shape sample ≠ .delimiter ∧ shape sample ≠ .register := by
        constructor
        · intro delimiter
          rw [(accepts_iff_of_delimiter delimiter).1 accepted] at leads
          simp [target?, delimiter] at leads
        · intro register
          simp [target?, (accepts_iff_of_register register).1 accepted] at leads
      cases sampleShape : shape sample with
      | delimiter => exact absurd sampleShape notCopied.1
      | register => exact absurd sampleShape notCopied.2
      | immediate expected => exact .immediate spelt otherSpelt
      | label => exact .label spelt (by rwa [add_zero])

end Operand

namespace Form

/-- For each operand, whether it may be a label. -/
def labelPlaces (form : Form) : List Bool :=
  form.operands.map fun sample => Operand.shape sample == .label

variable {scope : Scope} {form other : Form} {operands others : List Text}

/-- Operands of the same values are accepted alike. -/
theorem accepts_of_sameValue (same : List.Forall₂ (Operand.SameValue scope) operands others)
    (accepted : form.accepts operands = true) : form.accepts others = true := by
  rw [accepts_iff_forall₂] at accepted ⊢
  exact forall₂_trans (fun accepts sameValue => sameValue.accepts_of_accepts accepts) accepted same

/-- Forms with labels at the same places have room for the labels among the same operands. -/
theorem labelTaken_of_accepts (accepted : form.accepts operands = true)
    (places : other.labelPlaces = form.labelPlaces) :
    List.Forall₂
      (fun sample operand => Operand.shape operand = .label → Operand.shape sample = .label)
      other.operands operands := by
  have taken : List.Forall₂ (fun mayBeLabel operand => Operand.shape operand = .label →
      mayBeLabel = true) form.labelPlaces operands := by
    rw [labelPlaces, List.forall₂_map_left_iff]
    refine (accepts_iff_forall₂.1 accepted).imp ?_
    intro sample operand accepts label
    rw [beq_iff_eq]
    exact Operand.shape_eq_label_of_accepts accepts label
  rw [← places, labelPlaces, List.forall₂_map_left_iff] at taken
  exact taken.imp fun sample operand mayBeLabel label => beq_iff_eq.1 (mayBeLabel label)

/-- If one form takes some operands, another one with labels at the same places does not tell them
from operands of the same values. -/
theorem accepts_eq_of_sameValue (same : List.Forall₂ (Operand.SameValue scope) operands others)
    (accepted : form.accepts operands = true) (places : other.labelPlaces = form.labelPlaces) :
    other.accepts others = other.accepts operands := by
  rw [Bool.eq_iff_iff]
  refine ⟨?_, accepts_of_sameValue same⟩
  intro acceptsOthers
  rw [accepts_iff_forall₂] at acceptsOthers ⊢
  have back : List.Forall₂ (fun other operand => Operand.SameValue scope operand other)
      others operands := same.flip
  have possible : List.Forall₂ (fun sample operand =>
      (Operand.shape operand = .label → Operand.shape sample = .label) →
        Operand.accepts sample operand = true) other.operands operands :=
    forall₂_trans (fun accepts sameValue taken => sameValue.accepts_of_accepts_other taken accepts)
      acceptsOthers back
  exact List.Forall₂.mp (fun _ _ taken accepts => accepts taken)
    (labelTaken_of_accepts accepted places) possible

end Form

namespace Table

theorem labelPlaces_eq_of_mnemonic_eq : ∀ form ∈ builtinForms, ∀ other ∈ builtinForms,
    other.mnemonic = form.mnemonic → other.labelPlaces = form.labelPlaces := by
  have later : builtinForms.Pairwise fun form other =>
      other.mnemonic = form.mnemonic → other.labelPlaces = form.labelPlaces := by
    decide +kernel
  have earlier : builtinForms.Pairwise (flip fun form other : Form =>
      other.mnemonic = form.mnemonic → other.labelPlaces = form.labelPlaces) :=
    later.imp fun places mnemonics => (places mnemonics.symm).symm
  exact List.Pairwise.forall_of_forall_of_flip (fun _ _ _ => rfl) later earlier

variable {scope : Scope} {statement other : Statement} {form : Form}

/-- A reworded statement selects the same form. -/
theorem select_builtin_reworded (reworded : statement.Reworded scope other)
    (selected : builtin.select statement = .ok form) : builtin.select other = .ok form := by
  rcases mem_formsOf_and_accepts_of_select_eq_ok selected with ⟨ofMnemonic, accepted⟩
  have sameMnemonic : Text.lowercase other.mnemonic = Text.lowercase statement.mnemonic :=
    Text.lowercase_eq_of_map_toLower_eq reworded.mnemonic
  have sameForms : builtin.formsOf other.mnemonic = builtin.formsOf statement.mnemonic := by
    rw [formsOf_builtin, formsOf_builtin, sameMnemonic]
  rw [select_eq_ok_iff, sameForms, ← select_eq_ok_iff.1 selected]
  -- The first form that takes the operands is the same if each form takes both or none.
  apply List.find?_congr
  intro candidate member
  rw [mem_formsOf_builtin_iff] at member ofMnemonic
  exact Form.accepts_eq_of_sameValue reworded.operands accepted
    (labelPlaces_eq_of_mnemonic_eq form ofMnemonic.1 candidate member.1
      (member.2.trans ofMnemonic.2.symm))

end Table

/-- A reworded statement is expanded to the same lines. -/
theorem expansion_respects_operand_values {expander : Expander} {wanted : Option Variant}
    {scope : Scope} {pc : Int} {line otherLine : Text} {statement other : Statement}
    {expansion : Expansion} (table : expander.table = Table.builtin)
    (read : Statement.read? line = some statement)
    (otherRead : Statement.read? otherLine = some other)
    (reworded : statement.Reworded scope other)
    (success : expander.expand wanted scope pc line = .ok expansion) :
    ∃ otherExpansion, expander.expand wanted scope pc otherLine = .ok otherExpansion ∧
      otherExpansion.statements = expansion.statements := by
  rcases (Expander.expand_eq_ok_iff read).1 success with ⟨form, selected, expanded⟩
  rw [table] at selected
  rcases Table.mem_formsOf_and_accepts_of_select_eq_ok selected with ⟨ofMnemonic, accepts⟩
  have otherSelected : expander.table.select other = .ok form := by
    rw [table]
    exact Table.select_builtin_reworded reworded selected
  have sameSite : ∃ moved, expander.expandForm wanted scope pc form other = .ok moved ∧
      moved.statements = expansion.statements := by
    refine exists_expandForm_apart (Table.mem_formsOf_builtin_iff.1 ofMnemonic).1
      (add_zero _).symm ?_ (fun _ _ _ => rfl) ?_ (Form.accepts_iff_forall₂.1 accepts)
      reworded.operands expanded
    · intro address
      rw [add_zero]
    · intro sample operand another word accepted sameValue resolved
      exact sameValue.exists_resolveOperand accepted resolved
  rcases sameSite with ⟨otherExpansion, otherExpanded, statements⟩
  exact ⟨otherExpansion, (Expander.expand_eq_ok_iff otherRead).2 ⟨form, otherSelected,
    otherExpanded⟩, statements⟩

/-- A label at the last address. -/
def lastAddress : Scope :=
  [⟨SymbolTable.globalName, [⟨"last".toList, -1⟩], by decide⟩]

theorem expansion_respects_operand_values_lastAddress :
    ∃ expansion otherExpansion,
      Expander.expand ⟨Table.builtin, .compact, 0⟩ (some .standard) lastAddress 0x400000
        "sb a0, last, t0".toList = .ok expansion ∧
      Expander.expand ⟨Table.builtin, .compact, 0⟩ (some .standard) lastAddress 0x400000
        "sB a0, 0xFFFFFFFF, t0 # the same".toList = .ok otherExpansion ∧
      expansion.statements = ["auipc t0, -1024".toList, "sb a0, -1(t0)".toList] ∧
      otherExpansion.statements = expansion.statements := by
  have expands : (Expander.expand ⟨Table.builtin, .compact, 0⟩ (some .standard) lastAddress 0x400000
      "sb a0, last, t0".toList).map Expansion.statements =
        .ok ["auipc t0, -1024".toList, "sb a0, -1(t0)".toList] := rfl
  rcases Outcome.map_eq_ok_iff.1 expands with ⟨expansion, success, stated⟩
  have leads : Operand.target? lastAddress "last".toList = some (-1) := by decide +kernel
  have spelt : Numeral.word? "0xFFFFFFFF".toList = some (-1) := by decide +kernel
  have reworded : Statement.Reworded lastAddress
      ⟨"sb".toList, ["a0".toList, "last".toList, "t0".toList]⟩
      ⟨"sB".toList, ["a0".toList, "0xFFFFFFFF".toList, "t0".toList]⟩ :=
    ⟨by decide +kernel,
      .cons (.unchanged _) (.cons (.numeral leads spelt) (.cons (.unchanged _) .nil))⟩
  have table : (Expander.mk Table.builtin .compact 0).table = Table.builtin := rfl
  have read : Statement.read? "sb a0, last, t0".toList =
      some ⟨"sb".toList, ["a0".toList, "last".toList, "t0".toList]⟩ := rfl
  have otherRead : Statement.read? "sB a0, 0xFFFFFFFF, t0 # the same".toList =
      some ⟨"sB".toList, ["a0".toList, "0xFFFFFFFF".toList, "t0".toList]⟩ := rfl
  rcases expansion_respects_operand_values table read otherRead reworded success with
    ⟨otherExpansion, otherSuccess, statements⟩
  exact ⟨expansion, otherExpansion, success, otherSuccess, stated, statements⟩

end PseudoAsm
