import PseudoAsm.Proofs.Expansion
import PseudoAsm.Proofs.Register
import PseudoAsm.Proofs.Text.Decimal

/-!
# Operands and what they lead to

Where the example of an operand is a label, a statement has a label or a numeral. Both lead to an
address, and after the labels are replaced this address is what the operand spells. Where the
example is a register, a statement has a register too, which is not replaced.
-/

namespace PseudoAsm

namespace Operand

variable {sample operand : Text}

/-- Where the example is a register, any register will do. -/
theorem accepts_iff_of_register (register : shape sample = .register) :
    accepts sample operand = true ↔ shape operand = .register := by
  unfold accepts
  rw [register]
  cases shape operand <;> simp

/-- Where the example is a label, a label or an immediate will do. -/
theorem accepts_iff_of_label (label : shape sample = .label) :
    accepts sample operand = true ↔
      shape operand = .label ∨ ∃ value, shape operand = .immediate value := by
  unfold accepts
  rw [label]
  cases shape operand <;> simp

/-- Where the example is a delimiter, only the same one will do. -/
theorem accepts_iff_of_delimiter (delimiter : shape sample = .delimiter) :
    accepts sample operand = true ↔ operand = sample := by
  unfold accepts
  rw [delimiter]
  cases shape operand <;> simp

/-- Where the example is an immediate, only an immediate will do, and it must fit the low field if
the example does. -/
theorem accepts_iff_of_immediate {expected : Word}
    (immediate : shape sample = .immediate expected) :
    accepts sample operand = true ↔
      ∃ given, shape operand = .immediate given ∧
        (fitsLowField expected.toInt = true → fitsLowField given.toInt = true) := by
  unfold accepts
  rw [immediate]
  cases shape operand <;> simp [or_iff_not_imp_left]

@[simp]
theorem fitsLowField_iff {value : Int} :
    fitsLowField value = true ↔ -2048 ≤ value ∧ value ≤ 2047 := by
  simp only [fitsLowField, Bool.and_eq_true, decide_eq_true_eq]
  omega

/-- A label is accepted only where the example is a label. -/
theorem shape_eq_label_of_accepts (accepted : accepts sample operand = true)
    (label : shape operand = .label) : shape sample = .label := by
  cases sampleShape : shape sample with
  | delimiter =>
      rw [(accepts_iff_of_delimiter sampleShape).1 accepted, sampleShape] at label
      cases label
  | register =>
      rw [(accepts_iff_of_register sampleShape).1 accepted] at label
      cases label
  | immediate expected =>
      rcases (accepts_iff_of_immediate sampleShape).1 accepted with ⟨given, immediate, _⟩
      rw [immediate] at label
      cases label
  | label => rfl

/-- The address of a label, or the value of a numeral. -/
def target? (scope : Scope) (operand : Text) : Option Word :=
  match shape operand with
  | .label => scope.address? operand
  | .immediate value => some value
  | _ => none

theorem exists_target?_of_accepts {scope : Scope} (label : shape sample = .label)
    (accepted : accepts sample operand = true)
    (defined : shape operand = .label → (scope.address? operand).isSome) :
    ∃ address, target? scope operand = some address := by
  rcases (accepts_iff_of_label label).1 accepted with isLabel | ⟨value, immediate⟩
  · rcases Option.isSome_iff_exists.1 (defined isLabel) with ⟨address, found⟩
    exact ⟨address, by simp [target?, isLabel, found]⟩
  · exact ⟨value, by simp [target?, immediate]⟩

end Operand

namespace Statement

variable {scope : Scope} {operand : Text}

theorem resolveOperand_of_ne_label (notLabel : Operand.shape operand ≠ .label) :
    resolveOperand scope operand = .ok operand :=
  resolveOperand_eq_ok_iff.2 (.inl ⟨notLabel, rfl⟩)

theorem resolveOperand_of_register (register : Operand.shape operand = .register) :
    resolveOperand scope operand = .ok operand :=
  resolveOperand_eq_ok_iff.2 (.inl ⟨by simp [register], rfl⟩)

/-- An operand that leads to an address spells this address once its labels are replaced. -/
theorem exists_resolveOperand_of_target? {address : Word}
    (target : Operand.target? scope operand = some address) :
    ∃ word, resolveOperand scope operand = .ok word ∧ Numeral.word? word = some address := by
  unfold Operand.target? at target
  split at target
  · next label =>
      exact ⟨Text.ofInt address.toInt,
        resolveOperand_eq_ok_iff.2 (.inr ⟨address, label, target, rfl⟩),
        Numeral.word?_ofInt_toInt address⟩
  · next value immediate =>
      cases target
      exact ⟨operand, resolveOperand_eq_ok_iff.2 (.inl ⟨by simp [immediate], rfl⟩),
        Operand.shape_eq_immediate_iff.1 immediate⟩
  · cases target

/-- Where the example is a label, an operand is resolved to a word that spells an address. -/
theorem exists_word?_of_resolveOperand {sample word : Text}
    (label : Operand.shape sample = .label) (accepted : Operand.accepts sample operand = true)
    (resolved : resolveOperand scope operand = .ok word) :
    ∃ address, Numeral.word? word = some address := by
  rcases resolveOperand_eq_ok_iff.1 resolved with ⟨notLabel, rfl⟩ | ⟨address, _, _, rfl⟩
  · rcases (Operand.accepts_iff_of_label label).1 accepted with isLabel | ⟨value, immediate⟩
    · exact absurd isLabel notLabel
    · exact ⟨value, Operand.shape_eq_immediate_iff.1 immediate⟩
  · exact ⟨address, Numeral.word?_ofInt_toInt address⟩

end Statement

/-- The words that stand for operands where a form has registers and labels: the registers
themselves, and for each label a word that spells its address. -/
inductive Resolves (scope : Scope) : List Shape → List Text → List Text → List Word → Prop
  | nil : Resolves scope [] [] [] []
  | register {shapes : List Shape} {operands words : List Text} {addresses : List Word}
      (operand : Text) (later : Resolves scope shapes operands words addresses) :
      Resolves scope (.register :: shapes) (operand :: operands) (operand :: words) addresses
  | target {shapes : List Shape} {operands words : List Text} {addresses : List Word}
      (operand word : Text) (address : Word)
      (leads : Operand.target? scope operand = some address)
      (spelt : Numeral.word? word = some address)
      (later : Resolves scope shapes operands words addresses) :
      Resolves scope (.label :: shapes) (operand :: operands) (word :: words)
        (address :: addresses)

/-- Operands that are accepted for registers and labels resolve if their labels are defined. -/
theorem exists_resolves_of_forall₂_accepts {scope : Scope} {samples operands : List Text}
    (accepted : List.Forall₂ (fun sample operand => Operand.accepts sample operand = true)
      samples operands)
    (shapes : ∀ shape ∈ samples.map Operand.shape, shape = .register ∨ shape = .label)
    (defined : ∀ operand ∈ operands, Operand.shape operand = .label →
      (scope.address? operand).isSome) :
    ∃ words addresses, Resolves scope (samples.map Operand.shape) operands words addresses ∧
      List.Forall₂ (fun operand word => Statement.resolveOperand scope operand = .ok word)
        operands words := by
  induction accepted with
  | nil => exact ⟨[], [], .nil, .nil⟩
  | @cons sample operand samples operands accepts _ ih =>
      rw [List.map_cons] at shapes
      rcases ih (fun _ member => shapes _ (List.mem_cons_of_mem _ member))
        (fun _ member => defined _ (List.mem_cons_of_mem _ member)) with
        ⟨words, addresses, resolves, resolved⟩
      rcases shapes (Operand.shape sample) List.mem_cons_self with register | label
      · have accepted := (Operand.accepts_iff_of_register register).1 accepts
        refine ⟨operand :: words, addresses, ?_,
          .cons (Statement.resolveOperand_of_register accepted) resolved⟩
        rw [List.map_cons, register]
        exact .register operand resolves
      · rcases Operand.exists_target?_of_accepts label accepts
          (defined operand List.mem_cons_self) with ⟨address, leads⟩
        rcases Statement.exists_resolveOperand_of_target? leads with ⟨word, wordOk, spelt⟩
        refine ⟨word :: words, address :: addresses, ?_, .cons wordOk resolved⟩
        rw [List.map_cons, label]
        exact .target operand word address leads spelt resolves

end PseudoAsm
