import Mathlib.Data.BitVec
import PseudoAsm.Proofs.Symbol.Definitions

/-!
# Labels moved by a distance

When the code of a listing is placed elsewhere, all of its labels move by the same distance, modulo
`2 ^ 32`. Names are found as before, at the moved address; and since moving is one to one on words,
the label that stood for an address stands for the moved address, in the same table and before the
same others.
-/

namespace PseudoAsm

namespace Word

theorem ofInt_add (left right : Int) : ofInt (left + right) = ofInt left + ofInt right :=
  BitVec.ofInt_add left right

end Word

namespace Symbol

/-- The same name at its address plus the distance. -/
def moveBy (distance : Word) (symbol : Symbol) : Symbol :=
  ⟨symbol.name, symbol.address + distance⟩

@[simp]
theorem name_moveBy (distance : Word) (symbol : Symbol) :
    (symbol.moveBy distance).name = symbol.name := rfl

@[simp]
theorem address_moveBy (distance : Word) (symbol : Symbol) :
    (symbol.moveBy distance).address = symbol.address + distance := rfl

theorem name_comp_moveBy (distance : Word) : Symbol.name ∘ moveBy distance = Symbol.name := rfl

end Symbol

namespace SymbolTable

/-- The table with the same names, each at its address plus the distance. -/
def moveBy (distance : Word) (table : SymbolTable) : SymbolTable where
  name := table.name
  symbols := table.symbols.map (Symbol.moveBy distance)
  nodup_names := by
    rw [List.map_map, Symbol.name_comp_moveBy]
    exact table.nodup_names

variable {distance address : Word} {table : SymbolTable} {name : Text}

@[simp]
theorem find?_moveBy :
    (table.moveBy distance).find? name = (table.find? name).map (Symbol.moveBy distance) :=
  List.find?_map ..

/-- Moving is one to one, so the first label at an address is still the first one. -/
theorem labelAt?_moveBy :
    (table.moveBy distance).labelAt? (address + distance) =
      (table.labelAt? address).map (Symbol.moveBy distance) := by
  rw [labelAt?, moveBy, List.find?_map, labelAt?]
  congr 2
  funext symbol
  simp

theorem moveBy_eq_self (noLabels : table.symbols = []) : table.moveBy distance = table := by
  rcases table with ⟨tableName, symbols, nodup⟩
  subst noLabels
  rfl

theorem define_eq_ok_iff {defined : SymbolTable} {start : Int} :
    table.define name start = .ok defined ↔
      table.find? name = none ∧ defined.name = table.name ∧
        defined.symbols = table.symbols ++ [Symbol.ofDefinition (name, start)] := by
  rcases defined with ⟨definedName, symbols, nodup⟩
  unfold define
  split
  · next symbol found => simp [found]
  · next absent => simp [absent, extend, Symbol.ofDefinition, eq_comm]

theorem ofDefinition_add (definition : Text × Int) (displacement : Int) :
    Symbol.ofDefinition (definition.1, definition.2 + displacement) =
      (Symbol.ofDefinition definition).moveBy (Word.ofInt displacement) := by
  simp [Symbol.ofDefinition, Symbol.moveBy, Word.ofInt_add]

/-- A definition succeeds at a moved address just as well. -/
theorem define_moveBy {defined : SymbolTable} {start displacement : Int}
    (success : table.define name start = .ok defined) :
    (table.moveBy (Word.ofInt displacement)).define name (start + displacement) =
      .ok (defined.moveBy (Word.ofInt displacement)) := by
  rcases define_eq_ok_iff.1 success with ⟨absent, definedName, symbols⟩
  refine define_eq_ok_iff.2 ⟨?_, definedName, ?_⟩
  · rw [find?_moveBy, absent, Option.map_none]
  · rw [ofDefinition_add (name, start)]
    simp [moveBy, symbols]

/-- Definitions that can be made at some addresses can be made at moved ones. -/
theorem foldlM_define_moveBy (displacement : Int) {definitions : List (Text × Int)}
    {defined : SymbolTable}
    (success : definitions.foldlM
      (fun table (label, address) => table.define label address) table = .ok defined) :
    (definitions.map fun (label, address) => (label, address + displacement)).foldlM
        (fun table (label, address) => table.define label address)
        (table.moveBy (Word.ofInt displacement)) =
      .ok (defined.moveBy (Word.ofInt displacement)) := by
  induction definitions generalizing table with
  | nil =>
      cases success
      rfl
  | cons definition definitions ih =>
      rw [List.foldlM_cons, Outcome.bind_eq_ok_iff] at success
      rcases success with ⟨next, first, later⟩
      rw [List.map_cons, List.foldlM_cons, Outcome.bind_eq_ok_iff]
      exact ⟨next.moveBy (Word.ofInt displacement), define_moveBy first, ih later⟩

/-- Definitions at moved addresses give the moved table. -/
theorem ofDefinitions_moveBy (displacement : Int) {tableName : Text}
    {definitions : List (Text × Int)} (success : ofDefinitions tableName definitions = .ok table) :
    ofDefinitions tableName (definitions.map fun (label, address) =>
      (label, address + displacement)) = .ok (table.moveBy (Word.ofInt displacement)) := by
  have moved := foldlM_define_moveBy displacement success
  rwa [moveBy_eq_self rfl] at moved

end SymbolTable

namespace Scope

/-- The scope with the same names, each at its address plus the distance. -/
def moveBy (distance : Word) (scope : Scope) : Scope :=
  scope.map (SymbolTable.moveBy distance)

variable {distance address : Word} {scope : Scope} {name : Text}

/-- Names are found as before, at the moved addresses. -/
@[simp]
theorem address?_moveBy :
    (scope.moveBy distance).address? name = (scope.address? name).map (· + distance) := by
  induction scope with
  | nil => rfl
  | cons table outer ih =>
      rw [moveBy, List.map_cons, ← moveBy]
      cases found : table.find? name with
      | none =>
          have absent : (table.moveBy distance).find? name = none := by
            rw [SymbolTable.find?_moveBy, found, Option.map_none]
          rw [address?_cons_of_find?_eq_none absent, address?_cons_of_find?_eq_none found, ih]
      | some symbol =>
          have moved : (table.moveBy distance).find? name = some (symbol.moveBy distance) := by
            rw [SymbolTable.find?_moveBy, found, Option.map_some]
          rw [address?_cons_of_find?_eq_some moved, address?_cons_of_find?_eq_some found]
          rfl

theorem labelAt?_moveBy :
    (scope.moveBy distance).labelAt? (address + distance) =
      (scope.labelAt? address).map (Symbol.moveBy distance) := by
  induction scope with
  | nil => rfl
  | cons table outer ih =>
      rw [moveBy, List.map_cons, ← moveBy]
      cases found : table.labelAt? address with
      | none =>
          have absent : (table.moveBy distance).labelAt? (address + distance) = none := by
            rw [SymbolTable.labelAt?_moveBy, found, Option.map_none]
          rw [labelAt?_cons_of_eq_none absent, labelAt?_cons_of_eq_none found, ih]
      | some symbol =>
          have moved : (table.moveBy distance).labelAt? (address + distance) =
              some (symbol.moveBy distance) := by
            rw [SymbolTable.labelAt?_moveBy, found, Option.map_some]
          rw [labelAt?_cons_of_eq_some moved, labelAt?_cons_of_eq_some found, Option.map_some]

theorem moveBy_eq_self (noLabels : ∀ table ∈ scope, table.symbols = []) :
    scope.moveBy distance = scope := by
  rw [moveBy, List.map_congr_left (g := id), List.map_id]
  intro table member
  exact SymbolTable.moveBy_eq_self (noLabels table member)

end Scope

end PseudoAsm
