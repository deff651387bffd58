import Mathlib.Data.List.Induction
import Mathlib.Data.List.Perm.Basic
import PseudoAsm.Proofs.Distinct
import PseudoAsm.Proofs.Table.Select
import PseudoAsm.Proofs.Text.Lowercase

/-!
# Selection is a scan

The index of a table is there for speed. What is selected with it is the first form of the table
that fits the statement, in the order of the table, and a statement that no form fits is refused for
one of two reasons. The mnemonics in the index divide the forms of the table among them.
-/

namespace PseudoAsm

namespace Form

/-- A form has a mnemonic, whatever the case of its letters. -/
def HasMnemonic (form : Form) (mnemonic : Text) : Prop :=
  Text.lowercase form.mnemonic = Text.lowercase mnemonic

instance (form : Form) (mnemonic : Text) : Decidable (form.HasMnemonic mnemonic) :=
  inferInstanceAs (Decidable (_ = _))

/-- A form fits a statement: it has the mnemonic, and as many examples as there are operands, each
of which accepts its operand. -/
structure Fits (form : Form) (statement : Statement) : Prop where
  mnemonic : form.HasMnemonic statement.mnemonic
  operands : List.Forall₂ (fun sample operand => Operand.accepts sample operand = true)
    form.operands statement.operands

/-- A form fits if it has the mnemonic and accepts the operands. -/
theorem fits_iff {form : Form} {statement : Statement} :
    form.Fits statement ↔
      form.HasMnemonic statement.mnemonic ∧ form.accepts statement.operands = true := by
  rw [accepts_iff_forall₂]
  constructor
  · rintro ⟨mnemonic, operands⟩
    exact ⟨mnemonic, operands⟩
  · rintro ⟨mnemonic, operands⟩
    exact ⟨mnemonic, operands⟩

end Form

/-- Groups of the items with each key hold all items, each once. -/
theorem flatMap_filter_perm {α β : Type} [DecidableEq β] {key : α → β} {keys : List β}
    {items : List α} (nodup : keys.Nodup) (known : ∀ item ∈ items, key item ∈ keys) :
    (keys.flatMap fun other => items.filter fun item => key item = other).Perm items := by
  induction keys generalizing items with
  | nil =>
      have noItems : items = [] := by
        apply List.eq_nil_iff_forall_not_mem.2
        intro item member
        exact absurd (known item member) List.not_mem_nil
      simp [noItems]
  | cons first keys ih =>
      rcases List.nodup_cons.1 nodup with ⟨notLater, nodupLater⟩
      have rest : ∀ item ∈ items.filter fun item => !decide (key item = first),
          key item ∈ keys := by
        intro item member
        rcases List.mem_filter.1 member with ⟨inItems, other⟩
        exact (List.mem_cons.1 (known item inItems)).resolve_left (by simpa using other)
      have sameGroups : (keys.flatMap fun other => items.filter fun item => key item = other) =
          keys.flatMap fun other =>
            (items.filter fun item => !decide (key item = first)).filter
              fun item => key item = other := by
        apply List.flatMap_congr
        intro other later
        rw [List.filter_filter]
        apply List.filter_congr
        intro item _
        have different : key item = other → key item ≠ first := by
          rintro rfl isFirst
          exact notLater (isFirst ▸ later)
        by_cases inGroup : key item = other
        · simp [inGroup, inGroup ▸ different inGroup]
        · simp [inGroup]
      rw [List.flatMap_cons, sameGroups]
      exact ((ih nodupLater rest).append_left _).trans (List.filter_append_perm _ items)

namespace Index

/-- A form of a new mnemonic adds an entry at the end of the index, any other form none. -/
theorem keys_insertAt (index : Index) (mnemonic : Text) (form : Form) :
    (insertAt mnemonic form index).map Prod.fst =
      if mnemonic ∈ index.map Prod.fst then index.map Prod.fst
      else index.map Prod.fst ++ [mnemonic] := by
  induction index with
  | nil => rfl
  | cons entry index ih =>
      rcases entry with ⟨key, entries⟩
      by_cases found : key = mnemonic
      · simp [insertAt, found]
      · rw [insertAt, if_neg found, List.map_cons, ih]
        simp only [List.map_cons, List.mem_cons, Ne.symm found, false_or]
        split <;> rfl

theorem ofForms_append_singleton (forms : List Form) (form : Form) :
    ofForms (forms ++ [form]) = insert (ofForms forms) form := by
  simp [ofForms]

/-- The index has each mnemonic once, in the order in which the table first has them. -/
theorem keys_ofForms (forms : List Form) :
    (ofForms forms).map Prod.fst =
      (forms.map fun form => Text.lowercase form.mnemonic).eraseDups := by
  -- The form that comes last is inserted last, and what it adds stands at the end.
  induction forms using List.reverseRecOn with
  | nil => rfl
  | append_singleton forms form ih =>
      rw [ofForms_append_singleton, insert, keys_insertAt, ih, List.map_append, List.map_singleton,
        eraseDups_append_singleton]
      simp only [List.mem_eraseDups]

theorem nodup_keys_ofForms (forms : List Form) : ((ofForms forms).map Prod.fst).Nodup := by
  induction forms using List.reverseRecOn with
  | nil => exact List.nodup_nil
  | append_singleton forms form ih =>
      rw [ofForms_append_singleton, insert, keys_insertAt]
      split
      · exact ih
      · next fresh =>
          apply List.nodup_append.2
          refine ⟨ih, by simp, ?_⟩
          intro other member last isLast same
          rw [List.mem_singleton] at isLast
          subst isLast same
          exact fresh member

end Index

namespace Table

variable {table : Table} {forms : List Form} {statement : Statement} {form : Form}

/-- The mnemonics of a table, in the order of their first forms. -/
theorem mnemonics_eq_eraseDups :
    table.mnemonics = (table.forms.map fun form => Text.lowercase form.mnemonic).eraseDups := by
  rw [mnemonics, table.index_eq, Index.keys_ofForms]

theorem nodup_mnemonics : table.mnemonics.Nodup := by
  rw [mnemonics, table.index_eq]
  exact Index.nodup_keys_ofForms table.forms

/-- The forms of all mnemonics are the forms of the table. -/
theorem flatMap_formsOf_perm : (table.mnemonics.flatMap table.formsOf).Perm table.forms := by
  have groups : table.mnemonics.flatMap table.formsOf = table.mnemonics.flatMap fun mnemonic =>
      table.forms.filter fun form => Text.lowercase form.mnemonic = mnemonic := by
    apply List.flatMap_congr
    intro mnemonic member
    rw [mnemonics_eq_eraseDups, List.mem_eraseDups] at member
    rcases List.mem_map.1 member with ⟨form, _, rfl⟩
    rw [formsOf_eq_filter, Text.lowercase_lowercase]
  rw [groups]
  apply flatMap_filter_perm nodup_mnemonics
  intro form member
  rw [mnemonics_eq_eraseDups, List.mem_eraseDups]
  exact List.mem_map_of_mem member

/-- The first form that fits is selected. -/
theorem select_eq_ok_iff_first :
    table.select statement = .ok form ↔
      ∃ before after, table.forms = before ++ form :: after ∧ form.Fits statement ∧
        ∀ other ∈ before, ¬ other.Fits statement := by
  have first : table.select statement = .ok form ↔ form.Fits statement ∧
      ∃ before after, table.forms = before ++ form :: after ∧
        ∀ other ∈ before, ¬ other.Fits statement := by
    rw [select_eq_ok_iff, formsOf_eq_filter, List.find?_filter, List.find?_eq_some_iff_append]
    simp [Form.fits_iff, Form.HasMnemonic, imp_iff_not_or]
  rw [first]
  constructor
  · rintro ⟨fits, before, after, parts, earlier⟩
    exact ⟨before, after, parts, fits, earlier⟩
  · rintro ⟨before, after, parts, fits, earlier⟩
    exact ⟨fits, before, after, parts, earlier⟩

/-- Why a scan of some forms finds none that fits a statement. -/
inductive ScanFault (forms : List Form) (statement : Statement) : ExpansionError → Prop
  | unknownMnemonic (unknown : ∀ form ∈ forms, ¬ form.HasMnemonic statement.mnemonic) :
      ScanFault forms statement (.unknownMnemonic statement.mnemonic
        (Text.suggestions (Text.lowercase statement.mnemonic)
          (forms.map fun form => Text.lowercase form.mnemonic).eraseDups))
  | operandMismatch (known : ∃ form ∈ forms, form.HasMnemonic statement.mnemonic)
      (refused : ∀ form ∈ forms, ¬ form.Fits statement) :
      ScanFault forms statement (.operandMismatch statement.mnemonic statement.operands
        ((forms.filter fun form => form.HasMnemonic statement.mnemonic).map Form.usage))

theorem formsOf_eq_nil_iff {mnemonic : Text} :
    table.formsOf mnemonic = [] ↔ ∀ form ∈ table.forms, ¬ form.HasMnemonic mnemonic := by
  simp [formsOf_eq_filter, Form.HasMnemonic]

theorem find?_formsOf_eq_none_iff :
    (table.formsOf statement.mnemonic).find? (·.accepts statement.operands) = none ↔
      ∀ form ∈ table.forms, ¬ form.Fits statement := by
  simp [formsOf_eq_filter, Form.fits_iff, Form.HasMnemonic]

/-- What is wrong in a scan of the forms is what the selection reports. -/
theorem select_eq_error_of_scanFault {error : ExpansionError}
    (fault : ScanFault table.forms statement error) : table.select statement = .error error := by
  cases fault with
  | unknownMnemonic unknown =>
      have noForms := formsOf_eq_nil_iff.2 unknown
      simp only [select, lookup, noForms, bind, Except.bind, mnemonics_eq_eraseDups]
  | operandMismatch known refused =>
      have someForms : table.formsOf statement.mnemonic ≠ [] := by
        intro noForms
        rcases known with ⟨form, member, hasMnemonic⟩
        exact formsOf_eq_nil_iff.1 noForms form member hasMnemonic
      have refuses : ∀ form ∈ table.formsOf statement.mnemonic,
          form.accepts statement.operands = false := by
        simpa using find?_formsOf_eq_none_iff.2 refused
      have mismatch := select_eq_error_of_forall_accepts_eq_false someForms refuses
      rw [formsOf_eq_filter] at mismatch
      exact mismatch

/-- A statement is refused for the reason that a scan of the table finds. -/
theorem select_eq_error_iff {error : ExpansionError} :
    table.select statement = .error error ↔ ScanFault table.forms statement error := by
  constructor
  · intro refused
    have sameError : ∀ {other}, ScanFault table.forms statement other → other = error := by
      intro other fault
      exact Except.error.inj ((select_eq_error_of_scanFault fault).symm.trans refused)
    by_cases known : ∃ form ∈ table.forms, form.HasMnemonic statement.mnemonic
    · have noneFits : ∀ form ∈ table.forms, ¬ form.Fits statement := by
        rw [← find?_formsOf_eq_none_iff, Option.eq_none_iff_forall_ne_some]
        intro form found
        rw [select_eq_ok_iff.2 found] at refused
        cases refused
      have fault := ScanFault.operandMismatch known noneFits
      exact sameError fault ▸ fault
    · have fault : ScanFault table.forms statement _ := .unknownMnemonic (by simpa using known)
      exact sameError fault ▸ fault
  · exact select_eq_error_of_scanFault

/-- Selection with the index is a scan of the forms in their order: the first form that fits is
selected, and otherwise the mnemonic is unknown or all forms that have it refuse the operands. The
index has every mnemonic once, where it appears first, and every form under its mnemonic. -/
theorem selection_scans_forms (forms : List Form) (statement : Statement) :
    (∀ form, (ofForms forms).select statement = .ok form ↔
      ∃ before after, forms = before ++ form :: after ∧ form.Fits statement ∧
        ∀ other ∈ before, ¬ other.Fits statement) ∧
    (∀ error, (ofForms forms).select statement = .error error ↔
      ScanFault forms statement error) ∧
    (ofForms forms).mnemonics =
      (forms.map fun form => Text.lowercase form.mnemonic).eraseDups ∧
    (ofForms forms).mnemonics.Nodup ∧
    ((ofForms forms).mnemonics.flatMap (ofForms forms).formsOf).Perm forms := by
  refine ⟨?_, ?_, mnemonics_eq_eraseDups, nodup_mnemonics, flatMap_formsOf_perm⟩
  · intro form
    exact select_eq_ok_iff_first
  · intro error
    exact select_eq_error_iff

end Table

end PseudoAsm
