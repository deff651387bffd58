import PseudoAsm.Form

/-!
# Tables of forms

A table lists forms of pseudo-instructions. Several forms may share a mnemonic, which is compared
without regard to case; the first of them that accepts the operands of a statement is selected. An
index holds the forms of each mnemonic, in the order of the table.
-/

namespace PseudoAsm

/-- Mnemonics in lower case, each with its forms. -/
abbrev Index := List (Text × List Form)

namespace Index

/-- Adds a form to those of a mnemonic in lower case. -/
def insertAt (mnemonic : Text) (form : Form) : Index → Index
  | [] => [(mnemonic, [form])]
  | (other, forms) :: index =>
    if other = mnemonic then (other, forms ++ [form]) :: index
    else (other, forms) :: insertAt mnemonic form index

/-- Adds a form behind those of its mnemonic. -/
def insert (index : Index) (form : Form) : Index :=
  insertAt (Text.lowercase form.mnemonic) form index

/-- The index of forms, which come in the order of a table. -/
def ofForms (forms : List Form) : Index :=
  forms.foldl insert []

/-- The forms of a mnemonic in lower case. -/
def forms (index : Index) (mnemonic : Text) : List Form :=
  (index.lookup mnemonic).getD []

end Index

/-- Forms of pseudo-instructions with their index. -/
structure Table where
  forms : List Form
  index : Index
  index_eq : index = Index.ofForms forms

namespace Table

/-- The table of the given forms. -/
def ofForms (forms : List Form) : Table :=
  ⟨forms, Index.ofForms forms, rfl⟩

/-- The mnemonics in lower case, in the order of the table. -/
def mnemonics (table : Table) : List Text :=
  table.index.map Prod.fst

/-- The forms of a mnemonic, in any case. -/
def formsOf (table : Table) (mnemonic : Text) : List Form :=
  table.index.forms (Text.lowercase mnemonic)

/-- Whether the table has a form of the mnemonic. -/
def contains (table : Table) (mnemonic : Text) : Bool :=
  table.mnemonics.contains (Text.lowercase mnemonic)

/-- The forms of a mnemonic, or the mnemonics that may have been meant. -/
def lookup (table : Table) (mnemonic : Text) : Except ExpansionError (List Form) :=
  match table.formsOf mnemonic with
  | [] =>
    .error (.unknownMnemonic mnemonic
      (Text.suggestions (Text.lowercase mnemonic) table.mnemonics))
  | forms => .ok forms

/-- The first form of its mnemonic that accepts the operands of a statement. -/
def select (table : Table) (statement : Statement) : Except ExpansionError Form := do
  let forms ← table.lookup statement.mnemonic
  match forms.find? (·.accepts statement.operands) with
  | some form => .ok form
  | none =>
    .error (.operandMismatch statement.mnemonic statement.operands (forms.map Form.usage))

/-- The table as it is shown, with its size. -/
def summary (table : Table) : Text :=
  Note.tableSize table.forms.length table.mnemonics.length

end Table

end PseudoAsm
