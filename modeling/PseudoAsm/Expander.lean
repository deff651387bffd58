import PseudoAsm.Table.Basic

/-!
# Expanding statements

An expander is a table with the variant that is preferred and the address where statements start.
A statement is expanded in four steps: it is cut into words, the table selects a form, labels are
replaced by their addresses, and the recipe of the form is filled.
-/

namespace PseudoAsm

/-- A table and how it is used. -/
structure Expander where
  table : Table
  preferred : Variant
  textBase : Int

namespace Expander

/-- The variant of a form that is used: the compact one if it is wanted and there is one. -/
def variant (expander : Expander) (wanted : Option Variant) (form : Form) : Variant :=
  match wanted.getD expander.preferred, form.compact with
  | .compact, some _ => .compact
  | _, _ => .standard

/-- Expands a statement by the form that was selected for it. -/
def expandForm (expander : Expander) (wanted : Option Variant) (scope : Scope) (pc : Int)
    (form : Form) (statement : Statement) : Except ExpansionError Expansion := do
  let words ← statement.resolve scope
  form.expand (expander.variant wanted form) ⟨words, pc, scope⟩

/-- Expands the statement on a line: the form that is selected for it, with addresses in place of
labels. A line without a statement stands for no instructions. -/
def expand (expander : Expander) (wanted : Option Variant) (scope : Scope) (pc : Int)
    (line : Text) : Except ExpansionError Expansion :=
  match Statement.read? line with
  | none => .ok ⟨[], []⟩
  | some statement => do
    let form ← expander.table.select statement
    expander.expandForm wanted scope pc form statement

end Expander

end PseudoAsm
