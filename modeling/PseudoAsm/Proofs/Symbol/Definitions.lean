import PseudoAsm.Proofs.Outcome
import PseudoAsm.Proofs.Symbol.Lookup

/-!
# Tables made of definitions

A definition that succeeds adds its label after the others, at its address as a word. A table made
of a list of definitions therefore holds exactly these, in their order, and each name is found at
the address that it was defined at. There is such a table if no name is defined twice; otherwise the
first definition that repeats a name is reported, with the address from before.
-/

namespace PseudoAsm

/-- The label that a definition stands for. -/
def Symbol.ofDefinition (definition : Text × Int) : Symbol :=
  ⟨definition.1, Word.ofInt definition.2⟩

namespace SymbolTable

/-- A definition adds one label behind the others. -/
theorem symbols_of_define_eq_ok {table defined : SymbolTable} {name : Text} {address : Int}
    (success : table.define name address = .ok defined) :
    defined.symbols = table.symbols ++ [Symbol.ofDefinition (name, address)] := by
  unfold define at success
  split at success
  · cases success
  · cases success
    rfl

theorem symbols_of_foldlM_define_eq_ok {definitions : List (Text × Int)}
    {table defined : SymbolTable}
    (success : definitions.foldlM
      (fun table (label, address) => table.define label address) table = .ok defined) :
    defined.symbols = table.symbols ++ definitions.map Symbol.ofDefinition := by
  induction definitions generalizing table with
  | nil =>
      cases success
      simp
  | cons definition definitions ih =>
      simp only [List.foldlM_cons, Outcome.bind_eq_ok_iff] at success
      rcases success with ⟨next, first, later⟩
      rw [ih later, symbols_of_define_eq_ok first]
      simp

theorem symbols_of_ofDefinitions_eq_ok {name : Text} {definitions : List (Text × Int)}
    {table : SymbolTable} (success : ofDefinitions name definitions = .ok table) :
    table.symbols = definitions.map Symbol.ofDefinition := by
  have symbols := symbols_of_foldlM_define_eq_ok success
  simpa [empty] using symbols

/-- A name can be defined exactly if the table does not have it. -/
@[simp]
theorem exists_define_iff {table : SymbolTable} {name : Text} {address : Int} :
    (∃ defined, table.define name address = .ok defined) ↔ name ∉ table.names := by
  rw [← find?_eq_none_iff]
  unfold define
  split
  · next symbol found => simp [found]
  · next absent => simp [absent]

/-- A definition fails with the label that has the name already. -/
theorem define_eq_error_iff {table : SymbolTable} {name : Text} {address : Int}
    {error : ExpansionError} :
    table.define name address = .error error ↔
      ∃ symbol, table.find? name = some symbol ∧
        error = .duplicateSymbol name (some symbol.address) := by
  unfold define
  split
  · next symbol found => simp [found, eq_comm]
  · next absent => simp [absent]

/-- Labels can be defined one after the other exactly if all names are different. -/
theorem exists_foldlM_define_iff {definitions : List (Text × Int)} {table : SymbolTable} :
    (∃ defined, definitions.foldlM
      (fun table (label, address) => table.define label address) table = .ok defined) ↔
      (table.names ++ definitions.map Prod.fst).Nodup := by
  induction definitions generalizing table with
  | nil =>
      simp only [List.foldlM_nil, List.map_nil, List.append_nil]
      exact ⟨fun _ => table.nodup_names, fun _ => ⟨table, rfl⟩⟩
  | cons definition definitions ih =>
      have names : ∀ {next : SymbolTable}, table.define definition.1 definition.2 = .ok next →
          next.names ++ definitions.map Prod.fst =
            table.names ++ (definition :: definitions).map Prod.fst := by
        intro next success
        simp [SymbolTable.names, symbols_of_define_eq_ok success, Symbol.ofDefinition]
      simp only [List.foldlM_cons, Outcome.bind_eq_ok_iff]
      constructor
      · rintro ⟨defined, next, first, later⟩
        rw [← names first]
        exact ih.1 ⟨defined, later⟩
      · intro nodup
        have fresh : definition.1 ∉ table.names := by
          intro member
          exact (List.nodup_append.1 nodup).2.2 _ member _ (by simp) rfl
        rcases exists_define_iff.2 fresh with ⟨next, first⟩
        rw [← names first] at nodup
        rcases ih.2 nodup with ⟨defined, later⟩
        exact ⟨defined, next, first, later⟩

/-- A table can be made of definitions exactly if no label is defined twice. -/
theorem exists_ofDefinitions_iff {name : Text} {definitions : List (Text × Int)} :
    (∃ table, ofDefinitions name definitions = .ok table) ↔
      (definitions.map Prod.fst).Nodup :=
  exists_foldlM_define_iff

theorem exists_of_foldlM_define_eq_error {definitions : List (Text × Int)} {table : SymbolTable}
    {error : ExpansionError}
    (failed : definitions.foldlM
      (fun table (label, address) => table.define label address) table = .error error) :
    ∃ before label again after symbol, definitions = before ++ (label, again) :: after ∧
      (table.names ++ before.map Prod.fst).Nodup ∧
      symbol ∈ table.symbols ++ before.map Symbol.ofDefinition ∧ symbol.name = label ∧
      error = .duplicateSymbol label (some symbol.address) := by
  induction definitions generalizing table with
  | nil => cases failed
  | cons definition definitions ih =>
      simp only [List.foldlM_cons, Outcome.bind_eq_error_iff] at failed
      rcases failed with first | ⟨next, success, later⟩
      · rcases define_eq_error_iff.1 first with ⟨symbol, found, rfl⟩
        rcases find?_eq_some_iff.1 found with ⟨member, name⟩
        refine ⟨[], definition.1, definition.2, definitions, symbol, rfl, ?_, ?_, name, rfl⟩
        · simpa [SymbolTable.names] using table.nodup_names
        · simpa using member
      · rcases ih later with ⟨before, label, again, after, symbol, rfl, nodup, member, name, rfl⟩
        have symbols := symbols_of_define_eq_ok success
        refine ⟨definition :: before, label, again, after, symbol, rfl, ?_, ?_, name, rfl⟩
        · simpa [SymbolTable.names, symbols, Symbol.ofDefinition] using nodup
        · simpa [symbols] using member

/-- No table can be made of definitions because of the first one that repeats a name, and what is
reported is where the name was defined before. -/
theorem exists_of_ofDefinitions_eq_error {name : Text} {definitions : List (Text × Int)}
    {error : ExpansionError} (failed : ofDefinitions name definitions = .error error) :
    ∃ before label again after address, definitions = before ++ (label, again) :: after ∧
      (before.map Prod.fst).Nodup ∧ (label, address) ∈ before ∧
      error = .duplicateSymbol label (some (Word.ofInt address)) := by
  rcases exists_of_foldlM_define_eq_error failed with
    ⟨before, label, again, after, symbol, parts, nodup, member, symbolName, rfl⟩
  have inBefore : symbol ∈ before.map Symbol.ofDefinition := by
    simpa [empty] using member
  rcases List.mem_map.1 inBefore with ⟨⟨other, address⟩, otherMem, rfl⟩
  have sameName : other = label := symbolName
  subst sameName
  refine ⟨before, other, again, after, address, parts, ?_, otherMem, rfl⟩
  simpa [SymbolTable.names, empty] using nodup

theorem find?_of_mem_definitions {name label : Text} {address : Int}
    {definitions : List (Text × Int)} {table : SymbolTable}
    (success : ofDefinitions name definitions = .ok table)
    (member : (label, address) ∈ definitions) :
    table.find? label = some (Symbol.ofDefinition (label, address)) := by
  apply find?_eq_some_iff.2
  rw [symbols_of_ofDefinitions_eq_ok success]
  exact ⟨List.mem_map_of_mem member, rfl⟩

end SymbolTable

end PseudoAsm
