import PseudoAsm.Expander
import PseudoAsm.Proofs.Outcome
import PseudoAsm.Proofs.Related
import PseudoAsm.Proofs.Symbol.Lookup

/-!
# What an expansion is made of

The expansion of a statement succeeds exactly when its steps do: a form is selected, every label
among the operands has an address, and the form has a recipe for the variant in use. The lines are
then the templates of the recipe, each filled for the same words, the same address and the same
labels.
-/

namespace PseudoAsm

namespace Statement

variable {scope : Scope}

/-- An operand is replaced only if it is a label, and then by the address of the label. -/
theorem resolveOperand_eq_ok_iff {operand word : Text} :
    resolveOperand scope operand = .ok word ↔
      (Operand.shape operand ≠ .label ∧ word = operand) ∨
        ∃ address, Operand.shape operand = .label ∧ scope.address? operand = some address ∧
          word = Text.ofInt address.toInt := by
  unfold resolveOperand
  split
  · next label =>
      cases scope.address? operand with
      | none => simp [label]
      | some address => simp [label, eq_comm]
  · next notLabel =>
      have notLabel : Operand.shape operand ≠ .label := notLabel
      simp [notLabel, eq_comm]

/-- A statement is resolved operand by operand, behind its mnemonic. -/
theorem resolve_eq_ok_iff {statement : Statement} {words : List Text} :
    statement.resolve scope = .ok words ↔
      ∃ operands, words = statement.mnemonic :: operands ∧
        List.Forall₂ (fun operand word => resolveOperand scope operand = .ok word)
          statement.operands operands := by
  simp only [resolve, Outcome.map_eq_ok_iff, Outcome.mapM_eq_ok_iff]
  constructor
  · rintro ⟨operands, resolved, rfl⟩
    exact ⟨operands, rfl, resolved⟩
  · rintro ⟨operands, rfl, resolved⟩
    exact ⟨operands, resolved, rfl⟩

theorem getLast?_of_resolve_eq_ok {statement : Statement} {words : List Text} {target : Text}
    (resolved : statement.resolve scope = .ok words)
    (last : statement.operands.getLast? = some target) :
    ∃ word, 2 ≤ words.length ∧ words.getLast? = some word ∧
      resolveOperand scope target = .ok word := by
  rcases resolve_eq_ok_iff.1 resolved with ⟨operands, rfl, each⟩
  rcases exists_getLast?_of_forall₂ each last with ⟨word, lastWord, wordOk⟩
  rcases List.getLast?_eq_some_iff.1 lastWord with ⟨front, rfl⟩
  exact ⟨word, by simp, by simp [List.getLast?_cons], wordOk⟩

/-- The only fault of an operand is that it is a label that nothing in scope defines. -/
theorem resolveOperand_eq_error_iff {operand : Text} {error : ExpansionError} :
    resolveOperand scope operand = .error error ↔
      Operand.shape operand = .label ∧ scope.address? operand = none ∧
        error = .undefinedSymbol operand (Text.suggestions operand scope.names) := by
  unfold resolveOperand
  split
  · next label =>
      cases scope.address? operand with
      | none => simp [label, eq_comm]
      | some address => simp
  · next notLabel =>
      have notLabel : Operand.shape operand ≠ .label := notLabel
      simp [notLabel]

theorem exists_of_resolve_eq_error {statement : Statement} {error : ExpansionError}
    (failed : statement.resolve scope = .error error) :
    ∃ operand ∈ statement.operands, resolveOperand scope operand = .error error := by
  rw [resolve, Outcome.map_eq_error_iff, Outcome.mapM_eq_error_iff] at failed
  rcases failed with ⟨before, operand, after, operands, _, operandFailed⟩
  refine ⟨operand, ?_, operandFailed⟩
  rw [operands]
  simp

theorem exists_resolveOperand_iff {operand : Text} :
    (∃ word, resolveOperand scope operand = .ok word) ↔
      (Operand.shape operand = .label → operand ∈ scope.names) := by
  simp only [← Scope.address?_isSome_iff, Option.isSome_iff_exists]
  by_cases label : Operand.shape operand = .label
  · simp [resolveOperand_eq_ok_iff, label]
  · simp [resolveOperand_eq_ok_iff, label]

/-- Labels can be replaced by their addresses exactly if all of them are in scope. -/
theorem exists_resolve_iff {statement : Statement} :
    (∃ words, statement.resolve scope = .ok words) ↔
      ∀ operand ∈ statement.operands, Operand.shape operand = .label → operand ∈ scope.names := by
  simp only [← exists_resolveOperand_iff, ← exists_forall₂_iff, resolve_eq_ok_iff]
  constructor
  · rintro ⟨words, operands, _, resolved⟩
    exact ⟨operands, resolved⟩
  · rintro ⟨operands, resolved⟩
    exact ⟨_, operands, rfl, resolved⟩

/-- Labels are looked up from left to right, and the first one that is not in scope is reported. -/
theorem resolve_eq_error_iff {statement : Statement} {error : ExpansionError} :
    statement.resolve scope = .error error ↔
      ∃ before operand after, statement.operands = before ++ operand :: after ∧
        (∀ other ∈ before, Operand.shape other = .label → other ∈ scope.names) ∧
        Operand.shape operand = .label ∧ operand ∉ scope.names ∧
        error = .undefinedSymbol operand (Text.suggestions operand scope.names) := by
  have undefined : ∀ operand, scope.address? operand = none ↔ operand ∉ scope.names := by
    intro operand
    rw [← Scope.address?_isSome_iff, Option.not_isSome_iff_eq_none]
  simp only [resolve, Outcome.map_eq_error_iff, Outcome.mapM_eq_error_iff,
    exists_resolveOperand_iff, resolveOperand_eq_error_iff, undefined]

end Statement

namespace Form

variable {form : Form} {variant : Variant} {site : Site} {expansion : Expansion}

/-- The lines of a recipe, each filled on its own. -/
def filledLines (site : Site) (recipe : Recipe) : List Text :=
  recipe.map fun template => (Template.ofText template).fill site

/-- What a form is expanded to are the filled lines of its recipe. -/
theorem statements_of_expand_eq_ok (success : form.expand variant site = .ok expansion) :
    ∃ recipe, form.recipe? variant = some recipe ∧
      expansion.statements = filledLines site recipe := by
  unfold expand at success
  split at success
  · cases success
  · next recipe found =>
      cases success
      exact ⟨recipe, found, by simp [filledLines]⟩

theorem exists_expand_eq_ok {recipe : Recipe} (found : form.recipe? variant = some recipe) :
    ∃ expansion, form.expand variant site = .ok expansion ∧
      expansion.statements = filledLines site recipe := by
  simp [expand, found, filledLines]

/-- A form fails to be expanded only in a variant that it has no recipe for. -/
theorem expand_eq_error_iff {error : ExpansionError} :
    form.expand variant site = .error error ↔
      form.recipe? variant = none ∧ error = .noRecipe form.mnemonic variant := by
  unfold expand
  cases form.recipe? variant with
  | none => simp [eq_comm]
  | some recipe => simp

/-- The bytes that are set aside for a form before its operands are known are those that it takes.
-/
theorem length_of_expand_eq_ok (success : form.expand variant site = .ok expansion) :
    expansion.length = form.length variant := by
  rcases statements_of_expand_eq_ok success with ⟨recipe, found, statements⟩
  simp [Expansion.length, length, found, statements, filledLines]

end Form

namespace Expander

variable {expander : Expander} {wanted : Option Variant} {scope : Scope} {pc : Int}
  {form : Form} {statement : Statement} {expansion : Expansion}

/-- A selected form is expanded if its statement can be resolved and it has the recipe. -/
theorem expandForm_eq_ok_iff :
    expander.expandForm wanted scope pc form statement = .ok expansion ↔
      ∃ words, statement.resolve scope = .ok words ∧
        form.expand (expander.variant wanted form) ⟨words, pc, scope⟩ = .ok expansion := by
  simp only [expandForm, Outcome.bind_eq_ok_iff]

theorem expandForm_eq_error_iff {error : ExpansionError} :
    expander.expandForm wanted scope pc form statement = .error error ↔
      statement.resolve scope = .error error ∨
        ∃ words, statement.resolve scope = .ok words ∧
          form.expand (expander.variant wanted form) ⟨words, pc, scope⟩ = .error error := by
  simp only [expandForm, Outcome.bind_eq_error_iff]

/-- A form is expanded to the lines that its recipe is filled to. -/
theorem exists_expandForm_eq_ok {words : List Text} {recipe : Recipe}
    (resolved : statement.resolve scope = .ok words)
    (found : form.recipe? (expander.variant wanted form) = some recipe) :
    ∃ expansion, expander.expandForm wanted scope pc form statement = .ok expansion ∧
      expansion.statements = Form.filledLines ⟨words, pc, scope⟩ recipe := by
  have expands : ∃ expansion,
      form.expand (expander.variant wanted form) ⟨words, pc, scope⟩ = .ok expansion ∧
        expansion.statements = Form.filledLines ⟨words, pc, scope⟩ recipe :=
    Form.exists_expand_eq_ok found
  rcases expands with ⟨expansion, expanded, statements⟩
  exact ⟨expansion, expandForm_eq_ok_iff.2 ⟨words, resolved, expanded⟩, statements⟩

/-- Whether a selected form is expanded does not depend on any address. -/
theorem exists_expandForm_iff :
    (∃ expansion, expander.expandForm wanted scope pc form statement = .ok expansion) ↔
      form.recipe? (expander.variant wanted form) ≠ none ∧
        ∀ operand ∈ statement.operands, Operand.shape operand = .label →
          operand ∈ scope.names := by
  rw [← Statement.exists_resolve_iff, Option.ne_none_iff_exists']
  constructor
  · rintro ⟨expansion, success⟩
    rcases expandForm_eq_ok_iff.1 success with ⟨words, resolved, expanded⟩
    rcases Form.statements_of_expand_eq_ok expanded with ⟨recipe, found, _⟩
    exact ⟨⟨recipe, found⟩, words, resolved⟩
  · rintro ⟨⟨recipe, found⟩, words, resolved⟩
    rcases exists_expandForm_eq_ok resolved found with ⟨expansion, success, _⟩
    exact ⟨expansion, success⟩

/-- A statement is expanded by the form that is selected for it. -/
theorem expand_eq_ok_iff {line : Text} (read : Statement.read? line = some statement) :
    expander.expand wanted scope pc line = .ok expansion ↔
      ∃ form, expander.table.select statement = .ok form ∧
        expander.expandForm wanted scope pc form statement = .ok expansion := by
  simp only [expand, read, Outcome.bind_eq_ok_iff]

/-- A statement is not expanded if no form is selected, a label is not defined or the form has no
recipe. -/
theorem expand_eq_error_iff {line : Text} {error : ExpansionError} :
    expander.expand wanted scope pc line = .error error ↔
      ∃ statement, Statement.read? line = some statement ∧
        (expander.table.select statement = .error error ∨
          ∃ form, expander.table.select statement = .ok form ∧
            (statement.resolve scope = .error error ∨
              ∃ words, statement.resolve scope = .ok words ∧
                form.expand (expander.variant wanted form) ⟨words, pc, scope⟩ =
                  .error error)) := by
  unfold expand
  cases Statement.read? line with
  | none => simp
  | some statement => simp [Outcome.bind_eq_error_iff, expandForm]

/-- A form without a compact recipe falls back to the standard one. -/
theorem variant_of_compact_eq_none (noCompact : form.compact = none) :
    expander.variant wanted form = .standard := by
  unfold variant
  rw [noCompact]
  cases wanted.getD expander.preferred <;> rfl

theorem recipe?_variant_of_compact_eq_none (noCompact : form.compact = none) :
    form.recipe? (expander.variant wanted form) = form.standard := by
  rw [variant_of_compact_eq_none noCompact]
  rfl

/-- A statement is expanded if each step succeeds, and to the lines that its recipe is filled to. -/
theorem exists_expand_eq_ok {line : Text} {words : List Text} {recipe : Recipe}
    (read : Statement.read? line = some statement)
    (selected : expander.table.select statement = .ok form)
    (resolved : statement.resolve scope = .ok words)
    (found : form.recipe? (expander.variant wanted form) = some recipe) :
    ∃ expansion, expander.expand wanted scope pc line = .ok expansion ∧
      expansion.statements = Form.filledLines ⟨words, pc, scope⟩ recipe := by
  rcases exists_expandForm_eq_ok resolved found with ⟨expansion, expanded, statements⟩
  exact ⟨expansion, (expand_eq_ok_iff read).2 ⟨form, selected, expanded⟩, statements⟩

theorem expand_eq_error_of_select {line : Text} {error : ExpansionError}
    (read : Statement.read? line = some statement)
    (refused : expander.table.select statement = .error error) :
    expander.expand wanted scope pc line = .error error := by
  simp only [expand, read, refused]
  rfl

/-- The size of an expansion is known from the form alone. -/
theorem length_of_expandForm_eq_ok
    (success : expander.expandForm wanted scope pc form statement = .ok expansion) :
    expansion.length = form.length (expander.variant wanted form) := by
  rcases expandForm_eq_ok_iff.1 success with ⟨words, _, expanded⟩
  exact Form.length_of_expand_eq_ok expanded

end Expander

end PseudoAsm
