import PseudoAsm.Note
import PseudoAsm.Numeral
import PseudoAsm.Symbol.Table

/-!
# Scopes

A scope is a chain of symbol tables, the innermost first. A name means the label of the nearest
table that defines it. An address is shown as the label defined first at it in the nearest table
that has one there. The scope without tables stands for the absence of labels altogether.
-/

namespace PseudoAsm

/-- Symbol tables, the innermost first. -/
abbrev Scope := List SymbolTable

namespace Scope

/-- The address of a name: the one in the nearest table that defines it. -/
def address? (scope : Scope) (name : Text) : Option Word :=
  scope.findSome? fun table => (table.find? name).map Symbol.address

/-- The label that stands for an address: the first one there in the nearest table that has one. -/
def labelAt? (scope : Scope) (address : Word) : Option Symbol :=
  scope.findSome? (·.labelAt? address)

/-- The label that stands for the address that a text spells. -/
def labelAtText? (scope : Scope) (address : Text) : Option Symbol :=
  (Numeral.word? address).bind scope.labelAt?

/-- The names in scope, inner ones first and each once. -/
def names : Scope → List Text
  | [] => []
  | table :: outer => table.names ++ (names outer).filter (!table.names.contains ·)

/-- Why no label stands for an address. -/
inductive Unresolved where
  /-- There are no labels at all. -/
  | noScope
  /-- The text spells no address, or no label is defined at it. -/
  | noLabel
  deriving DecidableEq, Repr

/-- What is worth noting when no label stands for an address. -/
def Unresolved.note (address : Text) : Unresolved → Note
  | .noScope => .noScope address
  | .noLabel => .noLabel address

/-- The name of the label that stands for the address that a text spells. -/
def resolve (scope : Scope) (address : Text) : Except Unresolved Text :=
  if scope.isEmpty then .error .noScope
  else
    match labelAtText? scope address with
    | none => .error .noLabel
    | some symbol => .ok symbol.name

end Scope

end PseudoAsm
