import PseudoAsm.Proofs.Expansion
import PseudoAsm.Proofs.Register
import PseudoAsm.Proofs.Text.Decimal

/-!
# Labels replaced by addresses

Words that are resolved keep their number and their order. The mnemonic and whatever is not a label
stay as they are, and a label becomes the decimal numeral of its address. No label is left then, so
resolving the words again changes nothing, in whatever scope. The only thing that stands in the way
is a label that no table defines, and the leftmost one is reported.
-/

namespace PseudoAsm.Statement

/-- Whether an operand is a label that no table in scope defines. -/
def IsUndefined (scope : Scope) (operand : Text) : Prop :=
  Operand.shape operand = .label ∧ ∀ table ∈ scope, operand ∉ table.names

/-- An operand and the word that takes its place: itself, or for a label the decimal numeral that
spells its address. -/
inductive Replaced (scope : Scope) : Text → Text → Prop
  | kept {operand : Text} (notLabel : Operand.shape operand ≠ .label) :
      Replaced scope operand operand
  | address {operand word : Text} {address : Word} (label : Operand.shape operand = .label)
      (found : scope.address? operand = some address) (decimal : word = Text.ofInt address.toInt)
      (spelt : Numeral.word? word = some address)
      (immediate : Operand.shape word = .immediate address) : Replaced scope operand word

variable {scope : Scope} {operand word : Text}

theorem isUndefined_iff :
    IsUndefined scope operand ↔ Operand.shape operand = .label ∧ operand ∉ scope.names := by
  rw [IsUndefined, Scope.mem_names_iff]
  simp only [not_exists, not_and]

theorem replaced_of_resolveOperand_eq_ok (resolved : resolveOperand scope operand = .ok word) :
    Replaced scope operand word := by
  rcases resolveOperand_eq_ok_iff.1 resolved with
    ⟨notLabel, rfl⟩ | ⟨address, label, found, decimal⟩
  · exact .kept notLabel
  · have spelt : Numeral.word? word = some address := by
      rw [decimal, Numeral.word?_ofInt_toInt]
    exact .address label found decimal spelt (Operand.shape_eq_immediate_iff.2 spelt)

theorem Replaced.shape_ne_label (replaced : Replaced scope operand word) :
    Operand.shape word ≠ .label := by
  cases replaced with
  | kept notLabel => exact notLabel
  | address _ _ _ _ immediate => simp [immediate]

/-- A statement without labels is left as it is. -/
theorem resolve_of_forall_ne_label {operands : List Text}
    (noLabel : ∀ operand ∈ operands, Operand.shape operand ≠ .label) (mnemonic : Text)
    (scope : Scope) : resolve scope ⟨mnemonic, operands⟩ = .ok (mnemonic :: operands) := by
  refine resolve_eq_ok_iff.2 ⟨operands, rfl, List.forall₂_same.2 ?_⟩
  intro operand member
  exact resolveOperand_eq_ok_iff.2 (.inl ⟨noLabel operand member, rfl⟩)

/-- Words that are resolved are the mnemonic and what takes the place of each operand. -/
theorem forall₂_replaced_of_resolve_eq_ok {statement : Statement} {words : List Text}
    (resolved : statement.resolve scope = .ok words) :
    ∃ operands, words = statement.mnemonic :: operands ∧
      List.Forall₂ (Replaced scope) statement.operands operands := by
  rcases resolve_eq_ok_iff.1 resolved with ⟨operands, rfl, each⟩
  exact ⟨operands, rfl, each.imp fun _ _ => replaced_of_resolveOperand_eq_ok⟩

theorem forall_shape_ne_label_of_forall₂_replaced {operands words : List Text}
    (replaced : List.Forall₂ (Replaced scope) operands words) :
    ∀ word ∈ words, Operand.shape word ≠ .label := by
  induction replaced with
  | nil => simp
  | cons first _ ih => exact List.forall_mem_cons.2 ⟨first.shape_ne_label, ih⟩

/-- The leftmost undefined label is what stops the resolution of words. -/
theorem resolveWords_eq_error_iff {words : List Text} {error : ExpansionError} :
    resolveWords scope words = .error error ↔
      ∃ before operand after, words.tail = before ++ operand :: after ∧
        (∀ other ∈ before, ¬ IsUndefined scope other) ∧ IsUndefined scope operand ∧
        error = .undefinedSymbol operand (Text.suggestions operand scope.names) := by
  cases words with
  | nil => simp [resolveWords, ofWords?]
  | cons mnemonic operands =>
      have resolution : resolveWords scope (mnemonic :: operands) =
          resolve scope ⟨mnemonic, operands⟩ := rfl
      simp only [resolution, resolve_eq_error_iff, isUndefined_iff, not_and, not_not,
        List.tail_cons, and_assoc]

theorem exists_resolveWords_eq_error_iff {words : List Text} :
    (∃ error, resolveWords scope words = .error error) ↔
      ∃ operand ∈ words.tail, IsUndefined scope operand := by
  constructor
  · rintro ⟨error, failed⟩
    rcases resolveWords_eq_error_iff.1 failed with
      ⟨before, operand, after, parts, _, undefined, _⟩
    refine ⟨operand, ?_, undefined⟩
    rw [parts]
    exact List.mem_append_right _ List.mem_cons_self
  · rintro ⟨operand, member, undefined⟩
    cases words with
    | nil => cases member
    | cons mnemonic operands =>
        rw [isUndefined_iff] at undefined
        cases outcome : resolveWords scope (mnemonic :: operands) with
        | error error => exact ⟨error, rfl⟩
        | ok resolved =>
            have defined := exists_resolve_iff.1 ⟨resolved, outcome⟩ operand member undefined.1
            exact absurd defined undefined.2

/-- Resolution fails exactly at an undefined label, the leftmost one; else it keeps the mnemonic,
the order of the words and all that is not a label, and it leaves no label, so that another
resolution has nothing to do. -/
theorem resolution_keeps_shape_and_value (scope : Scope) (words : List Text) :
    ((∃ error, resolveWords scope words = .error error) ↔
      ∃ operand ∈ words.tail, IsUndefined scope operand) ∧
    (∀ error, resolveWords scope words = .error error ↔
      ∃ before operand after, words.tail = before ++ operand :: after ∧
        (∀ other ∈ before, ¬ IsUndefined scope other) ∧ IsUndefined scope operand ∧
        error = .undefinedSymbol operand (Text.suggestions operand scope.names)) ∧
    ∀ resolved, resolveWords scope words = .ok resolved →
      resolved.head? = words.head? ∧ List.Forall₂ (Replaced scope) words.tail resolved.tail ∧
        (∀ word ∈ resolved.tail, Operand.shape word ≠ .label) ∧
        ∀ otherScope, resolveWords otherScope resolved = .ok resolved := by
  refine ⟨exists_resolveWords_eq_error_iff, fun error => resolveWords_eq_error_iff, ?_⟩
  intro resolved success
  cases words with
  | nil =>
      cases success
      exact ⟨rfl, .nil, by simp, fun _ => rfl⟩
  | cons mnemonic operands =>
      rcases forall₂_replaced_of_resolve_eq_ok success with ⟨replacements, rfl, replaced⟩
      have noLabel := forall_shape_ne_label_of_forall₂_replaced replaced
      exact ⟨rfl, replaced, noLabel, resolve_of_forall_ne_label noLabel mnemonic⟩

end PseudoAsm.Statement
