import PseudoAsm.Symbol.Scope

/-!
# Symbol tables with parents

Symbol tables that are made one after another, each with a table made before it as its parent or
with none. A table keeps its place, so a label defined later in a parent is in scope of all tables
below it.
-/

namespace PseudoAsm

/-- A symbol table and the place of its parent. -/
structure ScopedTable where
  table : SymbolTable
  parent : Option Nat

/-- Symbol tables, the one made last first; places count from the one made first. -/
abbrev Forest := List ScopedTable

namespace Forest

/-- Adds a table; its place is the number of tables before it. -/
def insert (forest : Forest) (table : SymbolTable) (parent : Option Nat) : Forest :=
  ⟨table, parent⟩ :: forest

/-- The table at a place; places are counted from the oldest table on. -/
def table? (place : Nat) : Forest → Option SymbolTable
  | [] => none
  | newest :: older => if place = older.length then some newest.table else table? place older

/-- The scope of the table at a place: the table, its parent, and so on. -/
def scope (place : Nat) : Forest → Scope
  | [] => []
  | newest :: older =>
    if place = older.length then
      newest.table ::
        match newest.parent with
        | none => []
        | some parent => scope parent older
    else scope place older

/-- Defines a label in the table at a place. -/
def define (place : Nat) (name : Text) (address : Int) :
    Forest → Except ExpansionError Forest
  | [] => .ok []
  | newest :: older =>
    if place = older.length then
      (newest.table.define name address).map fun table => { newest with table } :: older
    else (define place name address older).map (newest :: ·)

end Forest

end PseudoAsm
