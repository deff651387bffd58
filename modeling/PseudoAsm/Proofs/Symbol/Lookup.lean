import Mathlib.Data.List.Nodup
import PseudoAsm.Symbol.Scope

/-!
# Looking up labels

A label is found by its name and by its address. Inside one table the two look-ups agree: a name
has one definition, so the label that is found at an address is also the one that is found under
its own name. Along a chain of tables each look-up stops at the first table that has an answer, and
this need not be the same table for a name and for an address.
-/

namespace PseudoAsm

/-- Among items with different names, an item is found under its name. -/
theorem find?_eq_some_of_mem_of_nodup {α : Type} {name : α → Text} {items : List α} {item : α}
    (nodup : (items.map name).Nodup) (member : item ∈ items) :
    items.find? (name · == name item) = some item := by
  cases found : items.find? (name · == name item) with
  | none => simpa using List.find?_eq_none.1 found item member
  | some other =>
      have otherMem := List.mem_of_find?_eq_some found
      have sameName : name other = name item := by simpa using List.find?_some found
      rw [List.inj_on_of_nodup_map nodup otherMem member sameName]

namespace SymbolTable

variable {table : SymbolTable} {name : Text} {address : Word} {symbol : Symbol}

/-- No two labels of a table have one name, so any label with the name is the one that is found. -/
theorem find?_eq_some_iff :
    table.find? name = some symbol ↔ symbol ∈ table.symbols ∧ symbol.name = name := by
  constructor
  · intro found
    exact ⟨List.mem_of_find?_eq_some found, by simpa using List.find?_some found⟩
  · rintro ⟨member, rfl⟩
    exact find?_eq_some_of_mem_of_nodup table.nodup_names member

@[simp]
theorem find?_eq_none_iff : table.find? name = none ↔ name ∉ table.names := by
  refine ⟨not_mem_names_of_find?_eq_none, fun absent => List.find?_eq_none.2 ?_⟩
  intro symbol member sameName
  exact absent (List.mem_map.2 ⟨symbol, member, by simpa using sameName⟩)

theorem labelAt?_eq_none_iff :
    table.labelAt? address = none ↔ ∀ symbol ∈ table.symbols, symbol.address ≠ address := by
  simp [labelAt?]

theorem mem_and_address_of_labelAt?_eq_some (found : table.labelAt? address = some symbol) :
    symbol ∈ table.symbols ∧ symbol.address = address :=
  ⟨List.mem_of_find?_eq_some found, by simpa using List.find?_some found⟩

theorem find?_name_of_labelAt?_eq_some (found : table.labelAt? address = some symbol) :
    table.find? symbol.name = some symbol :=
  find?_eq_some_iff.2 ⟨(mem_and_address_of_labelAt?_eq_some found).1, rfl⟩

/-- At the address of a label there is a label, if maybe an earlier one. -/
theorem labelAt?_isSome_of_find?_eq_some (found : table.find? name = some symbol) :
    (table.labelAt? symbol.address).isSome := by
  rw [Option.isSome_iff_ne_none]
  intro absent
  exact labelAt?_eq_none_iff.1 absent symbol (find?_eq_some_iff.1 found).1 rfl

end SymbolTable

namespace Scope

variable {table : SymbolTable} {outer scope : Scope} {name : Text} {address : Word}

@[simp]
theorem address?_nil : address? [] name = none := rfl

@[simp]
theorem labelAt?_nil : labelAt? [] address = none := rfl

/-- The nearest table that has the name decides. -/
theorem address?_cons_of_find?_eq_some {symbol : Symbol} (found : table.find? name = some symbol) :
    address? (table :: outer) name = some symbol.address := by
  simp [address?, found]

theorem address?_cons_of_find?_eq_none (absent : table.find? name = none) :
    address? (table :: outer) name = address? outer name := by
  simp [address?, absent]

/-- The nearest table that has a label there decides. -/
theorem labelAt?_cons_of_eq_some {symbol : Symbol} (found : table.labelAt? address = some symbol) :
    labelAt? (table :: outer) address = some symbol := by
  simp [labelAt?, found]

theorem labelAt?_cons_of_eq_none (absent : table.labelAt? address = none) :
    labelAt? (table :: outer) address = labelAt? outer address := by
  simp [labelAt?, absent]

theorem labelAt?_cons (table : SymbolTable) (outer : Scope) (address : Word) :
    labelAt? (table :: outer) address = (table.labelAt? address).or (outer.labelAt? address) := by
  cases atAddress : table.labelAt? address with
  | none => rw [labelAt?_cons_of_eq_none atAddress, Option.none_or]
  | some symbol => rw [labelAt?_cons_of_eq_some atAddress, Option.some_or]

section EmptyTable

variable {title : Text}

@[simp]
theorem address?_empty_cons : address? (.empty title :: outer) name = address? outer name :=
  address?_cons_of_find?_eq_none rfl

@[simp]
theorem labelAt?_empty_cons : labelAt? (.empty title :: outer) address = labelAt? outer address :=
  labelAt?_cons_of_eq_none rfl

@[simp]
theorem names_empty_cons : names (.empty title :: outer) = outer.names := by
  simp [names, SymbolTable.names, SymbolTable.empty]

/-- Behind an empty table addresses are shown as without it, unless there are no labels at all. -/
@[simp]
theorem resolve_empty_cons (nonempty : outer ≠ []) (text : Text) :
    resolve (.empty title :: outer) text = resolve outer text := by
  simp only [resolve, labelAtText?, List.isEmpty_iff, nonempty, reduceCtorEq, if_false]
  cases Numeral.word? text with
  | none => rfl
  | some address => simp

end EmptyTable

theorem labelAt?_eq_none_iff :
    scope.labelAt? address = none ↔
      ∀ table ∈ scope, ∀ symbol ∈ table.symbols, symbol.address ≠ address := by
  simp only [labelAt?, List.findSome?_eq_none_iff, SymbolTable.labelAt?_eq_none_iff]

theorem exists_mem_of_labelAt? {symbol : Symbol} (found : scope.labelAt? address = some symbol) :
    ∃ table ∈ scope, symbol ∈ table.symbols := by
  rcases List.exists_of_findSome?_eq_some found with ⟨table, member, inTable⟩
  exact ⟨table, member, (SymbolTable.mem_and_address_of_labelAt?_eq_some inTable).1⟩

/-- The names in scope are those of all tables. -/
@[simp]
theorem mem_names_cons_iff :
    name ∈ names (table :: outer) ↔ name ∈ table.names ∨ name ∈ outer.names := by
  rw [names, List.mem_append, List.mem_filter]
  by_cases inTable : name ∈ table.names
  · simp [inTable]
  · simp [inTable]

theorem mem_names_iff : name ∈ scope.names ↔ ∃ table ∈ scope, name ∈ table.names := by
  induction scope with
  | nil => simp [names]
  | cons table outer ih => simp [ih]

/-- A name has an address exactly if it is in scope. -/
theorem address?_isSome_iff : (scope.address? name).isSome ↔ name ∈ scope.names := by
  rw [mem_names_iff, address?, List.findSome?_isSome_iff]
  simp only [Option.isSome_map, Option.isSome_iff_ne_none, ne_eq,
    SymbolTable.find?_eq_none_iff, not_not]

/-- Each name in scope is listed once. -/
theorem nodup_names (scope : Scope) : scope.names.Nodup := by
  induction scope with
  | nil => exact List.nodup_nil
  | cons table outer ih =>
      apply List.nodup_append.2
      refine ⟨table.nodup_names, ih.filter _, ?_⟩
      intro own ownMem inherited inheritedMem same
      subst same
      simpa [ownMem] using (List.mem_filter.1 inheritedMem).2

/-- A name means the label of the nearest table that has it. -/
theorem address?_eq_some_iff :
    scope.address? name = some address ↔
      ∃ nearer table farther, scope = nearer ++ table :: farther ∧
        (∀ other ∈ nearer, name ∉ other.names) ∧ ⟨name, address⟩ ∈ table.symbols := by
  rw [address?, List.findSome?_eq_some_iff]
  simp only [Option.map_eq_none_iff, Option.map_eq_some_iff, SymbolTable.find?_eq_none_iff,
    SymbolTable.find?_eq_some_iff]
  constructor
  · rintro ⟨nearer, table, farther, parts, ⟨symbol, ⟨member, rfl⟩, rfl⟩, absent⟩
    exact ⟨nearer, table, farther, parts, absent, member⟩
  · rintro ⟨nearer, table, farther, parts, absent, member⟩
    exact ⟨nearer, table, farther, parts, ⟨_, ⟨member, rfl⟩, rfl⟩, absent⟩

theorem name_mem_names_of_labelAt? {symbol : Symbol}
    (found : scope.labelAt? address = some symbol) : symbol.name ∈ scope.names := by
  rcases exists_mem_of_labelAt? found with ⟨table, member, inTable⟩
  exact mem_names_iff.2 ⟨table, member, List.mem_map_of_mem inTable⟩

/-- An address that a name has is also found by its number, though maybe under another name. -/
theorem labelAt?_isSome_of_address?_eq_some (found : scope.address? name = some address) :
    (scope.labelAt? address).isSome := by
  induction scope with
  | nil => simp at found
  | cons table outer ih =>
      cases inTable : table.find? name with
      | some symbol =>
          rw [address?_cons_of_find?_eq_some inTable, Option.some.injEq] at found
          subst found
          rcases Option.isSome_iff_exists.1
            (SymbolTable.labelAt?_isSome_of_find?_eq_some inTable) with ⟨first, atAddress⟩
          simp [labelAt?_cons_of_eq_some atAddress]
      | none =>
          rw [address?_cons_of_find?_eq_none inTable] at found
          cases atAddress : table.labelAt? address with
          | some symbol => simp [labelAt?_cons_of_eq_some atAddress]
          | none =>
              rw [labelAt?_cons_of_eq_none atAddress]
              exact ih found

/-- A text is shown as a label if it spells the address of one. -/
theorem resolve_eq_ok_iff {text : Text} :
    scope.resolve text = .ok name ↔
      ∃ address symbol, Numeral.word? text = some address ∧
        scope.labelAt? address = some symbol ∧ symbol.name = name := by
  cases scope with
  | nil => simp [resolve]
  | cons table outer =>
      simp only [resolve, List.isEmpty_cons, Bool.false_eq_true, if_false, labelAtText?]
      cases Numeral.word? text with
      | none => simp
      | some address =>
          simp only [Option.bind_some, Option.some.injEq, exists_and_left, exists_eq_left']
          cases found : labelAt? (table :: outer) address with
          | none => simp
          | some symbol => simp

end Scope

end PseudoAsm
