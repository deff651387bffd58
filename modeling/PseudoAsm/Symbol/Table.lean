import PseudoAsm.ExpansionError
import PseudoAsm.Text.Display

/-!
# Symbol tables

A symbol table holds the labels of one file, each with the address it was defined at, in the order
of their definition. A label has one definition: defining it again in the same table fails and
changes nothing.
-/

namespace PseudoAsm

/-- A label and the address it was defined at. -/
structure Symbol where
  name : Text
  address : Word
  deriving DecidableEq, Repr

/-- The labels of one file, in the order of their definition. -/
structure SymbolTable where
  name : Text
  symbols : List Symbol
  nodup_names : (symbols.map Symbol.name).Nodup

namespace SymbolTable

/-- The name of a table of labels that belong to no file. -/
def globalName : Text :=
  "(global)".toList

/-- The table without labels. -/
def empty (name : Text) : SymbolTable :=
  ⟨name, [], List.nodup_nil⟩

/-- The names of the labels, in the order of their definition. -/
def names (table : SymbolTable) : List Text :=
  table.symbols.map Symbol.name

/-- The label with a name. -/
def find? (table : SymbolTable) (name : Text) : Option Symbol :=
  table.symbols.find? (·.name == name)

/-- The label defined first among those at an address. -/
def labelAt? (table : SymbolTable) (address : Word) : Option Symbol :=
  table.symbols.find? (·.address == address)

theorem not_mem_names_of_find?_eq_none {table : SymbolTable} {name : Text}
    (absent : table.find? name = none) : name ∉ table.names := by
  intro member
  obtain ⟨symbol, symbolMem, rfl⟩ := List.mem_map.1 member
  exact List.find?_eq_none.1 absent symbol symbolMem (by simp)

/-- Adds a label with a fresh name, after the labels that are there. -/
def extend (table : SymbolTable) (symbol : Symbol) (fresh : symbol.name ∉ table.names) :
    SymbolTable where
  name := table.name
  symbols := table.symbols ++ [symbol]
  nodup_names := by
    simp only [List.map_append, List.map_cons, List.map_nil]
    refine List.nodup_append.2 ⟨table.nodup_names, by simp, ?_⟩
    intro other otherMem last lastMem equal
    rw [List.mem_singleton.1 lastMem] at equal
    exact fresh (equal ▸ otherMem)

/-- Defines a label at an address, after the labels that are there. -/
def define (table : SymbolTable) (name : Text) (address : Int) :
    Except ExpansionError SymbolTable :=
  match absent : table.find? name with
  | some symbol => .error (.duplicateSymbol name (some symbol.address))
  | none =>
    .ok (table.extend ⟨name, Word.ofInt address⟩ (not_mem_names_of_find?_eq_none absent))

/-- Puts a symbol in the place of the one with its name. -/
def replaceIn (symbol : Symbol) (symbols : List Symbol) : List Symbol :=
  symbols.map fun other => if other.name = symbol.name then symbol else other

theorem map_name_replaceIn (symbol : Symbol) (symbols : List Symbol) :
    (replaceIn symbol symbols).map Symbol.name = symbols.map Symbol.name := by
  simp only [replaceIn, List.map_map, List.map_inj_left, Function.comp_apply]
  intro other _
  split <;> simp_all

/-- Gives a label an address, in place of the one that it has in the table. -/
def assign (table : SymbolTable) (name : Text) (address : Word) : SymbolTable :=
  match absent : table.find? name with
  | some _ => {
      table with
      symbols := replaceIn ⟨name, address⟩ table.symbols
      nodup_names := by
        rw [map_name_replaceIn]
        exact table.nodup_names }
  | none => table.extend ⟨name, address⟩ (not_mem_names_of_find?_eq_none absent)

/-- The table of the given definitions, made in order. -/
def ofDefinitions (name : Text) (definitions : List (Text × Int)) :
    Except ExpansionError SymbolTable :=
  definitions.foldlM (fun table (label, address) => table.define label address) (empty name)

/-- The table as it is shown, with its name and its size. -/
def summary (table : SymbolTable) : Text :=
  "SymbolTable(".toList ++ Text.quoted table.name ++ ", ".toList ++
    Text.ofNat table.symbols.length ++ " symbols)".toList

end SymbolTable

end PseudoAsm
