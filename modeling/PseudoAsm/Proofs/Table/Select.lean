import PseudoAsm.Proofs.Outcome
import PseudoAsm.Table.Basic

/-!
# Selecting a form

The index of a table is another order of its forms: those of a mnemonic are the forms of the table
that have it, in the order of the table. The first one of them that accepts the operands of a
statement is selected, and a form accepts operands one by one, each against its example.
-/

namespace PseudoAsm

/-- Operands are accepted one by one, and there are as many as examples. -/
theorem Form.accepts_iff_forall₂ {form : Form} {operands : List Text} :
    form.accepts operands = true ↔
      List.Forall₂ (fun sample operand => Operand.accepts sample operand = true)
        form.operands operands := by
  simp [Form.accepts, List.forall₂_iff_zip]

namespace Index

@[simp]
theorem forms_cons (index : Index) (key mnemonic : Text) (entries : List Form) :
    forms ((key, entries) :: index) mnemonic =
      if mnemonic = key then entries else forms index mnemonic := by
  by_cases found : mnemonic = key
  · simp [forms, found]
  · simp [forms, List.lookup_cons, found, beq_eq_false_iff_ne.2 found]

/-- A form goes to the end of its own entry and to no other. -/
theorem forms_insertAt (index : Index) (mnemonic other : Text) (form : Form) :
    forms (insertAt mnemonic form index) other =
      if mnemonic = other then forms index other ++ [form] else forms index other := by
  induction index with
  | nil =>
      rw [insertAt, forms_cons]
      simp [forms, eq_comm]
  | cons entry index ih =>
      rcases entry with ⟨key, entries⟩
      by_cases found : key = mnemonic
      · subst found
        by_cases same : key = other
        · simp [insertAt, same]
        · simp [insertAt, same, Ne.symm same]
      · by_cases asked : other = key
        · subst asked
          simp [insertAt, found, Ne.symm found]
        · simp [insertAt, found, asked, ih]

/-- The index groups the forms and keeps their order. -/
theorem forms_ofForms (table : List Form) (mnemonic : Text) :
    forms (ofForms table) mnemonic =
      table.filter fun form => Text.lowercase form.mnemonic = mnemonic := by
  have grown : ∀ index : Index, forms (table.foldl insert index) mnemonic =
      forms index mnemonic ++
        table.filter fun form => Text.lowercase form.mnemonic = mnemonic := by
    induction table with
    | nil => simp
    | cons form table ih =>
        intro index
        rw [List.foldl_cons, ih, insert, forms_insertAt]
        by_cases same : Text.lowercase form.mnemonic = mnemonic
        · simp [same]
        · simp [same]
  exact grown []

end Index

namespace Table

variable {table : Table} {statement : Statement} {form : Form}

/-- The forms of a mnemonic are found without the index as well. -/
theorem formsOf_eq_filter (mnemonic : Text) :
    table.formsOf mnemonic =
      table.forms.filter fun form => Text.lowercase form.mnemonic = Text.lowercase mnemonic := by
  rw [formsOf, table.index_eq, Index.forms_ofForms]

/-- The first form of the mnemonic that accepts the operands is selected. -/
theorem select_eq_ok_iff :
    table.select statement = .ok form ↔
      (table.formsOf statement.mnemonic).find? (·.accepts statement.operands) = some form := by
  unfold select lookup
  cases table.formsOf statement.mnemonic with
  | nil => simp [bind, Except.bind]
  | cons first later =>
      simp only [Outcome.bind_eq_ok_iff, Except.ok.injEq, exists_eq_left']
      cases (first :: later).find? (·.accepts statement.operands) with
      | none => simp
      | some selected => simp

theorem mem_formsOf_and_accepts_of_select_eq_ok (selected : table.select statement = .ok form) :
    form ∈ table.formsOf statement.mnemonic ∧ form.accepts statement.operands = true := by
  have found := select_eq_ok_iff.1 selected
  exact ⟨List.mem_of_find?_eq_some found, by simpa using List.find?_some found⟩

theorem select_eq_error_of_forall_accepts_eq_false
    (known : table.formsOf statement.mnemonic ≠ [])
    (refuses : ∀ form ∈ table.formsOf statement.mnemonic,
      form.accepts statement.operands = false) :
    table.select statement = .error (.operandMismatch statement.mnemonic statement.operands
      ((table.formsOf statement.mnemonic).map Form.usage)) := by
  have absent : (table.formsOf statement.mnemonic).find? (·.accepts statement.operands) = none := by
    apply List.find?_eq_none.2
    intro form member
    simp [refuses form member]
  unfold select lookup
  cases found : table.formsOf statement.mnemonic with
  | nil => exact absurd found known
  | cons first later =>
      rw [found] at absent
      simp only [bind, Except.bind, absent]

/-- A table refuses a statement because it has no form of the mnemonic, or because none of these
forms accepts the operands. -/
def Refusal (statement : Statement) (error : ExpansionError) : Prop :=
  (∃ similar, error = .unknownMnemonic statement.mnemonic similar) ∨
    ∃ usages, error = .operandMismatch statement.mnemonic statement.operands usages

/-- No other errors come from a selection. -/
theorem refusal_of_select_eq_error {error : ExpansionError}
    (refused : table.select statement = .error error) : Refusal statement error := by
  unfold select lookup at refused
  cases found : table.formsOf statement.mnemonic with
  | nil =>
      simp only [found, bind, Except.bind, Except.error.injEq] at refused
      exact .inl ⟨_, refused.symm⟩
  | cons first later =>
      simp only [found, bind, Except.bind] at refused
      split at refused
      · cases refused
      · cases refused
        exact .inr ⟨_, rfl⟩

end Table

end PseudoAsm
