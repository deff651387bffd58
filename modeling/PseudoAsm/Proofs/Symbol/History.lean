import PseudoAsm.Proofs.Distinct
import PseudoAsm.Proofs.Symbol.Definitions
import PseudoAsm.Proofs.Word.Split

/-!
# What a table keeps of its history

Labels are tried to be defined in a table, and a definition that fails leaves the table as it is.
So after any number of tries the table holds the names that were tried, in the order of the first
try of each, at the address of that try. This holds of a new table, it is kept by each try, and
hence it holds after all of them.
-/

namespace PseudoAsm.SymbolTable

/-- The table after a definition was tried in it. -/
def attempt (table : SymbolTable) (definition : Text × Int) : SymbolTable :=
  match table.define definition.1 definition.2 with
  | .ok defined => defined
  | .error _ => table

/-- The table after definitions were tried in it, one after the other. -/
def attemptAll (table : SymbolTable) (definitions : List (Text × Int)) : SymbolTable :=
  definitions.foldl attempt table

/-- A table holds what was tried in it: the names in the order in which they were first tried, each
once, at the address of the first try, wrapped to a signed word. -/
structure Records (history : List (Text × Int)) (table : SymbolTable) : Prop where
  names : table.names = (history.map Prod.fst).eraseDups
  addresses : ∀ symbol ∈ table.symbols, ∃ address,
    history.find? (·.1 == symbol.name) = some (symbol.name, address) ∧
      symbol.address.toInt = address.bmod (2 ^ 32)

variable {table : SymbolTable} {history : List (Text × Int)} {definition : Text × Int}

/-- A name that is known already stays as it is. -/
theorem attempt_of_mem (known : definition.1 ∈ table.names) : table.attempt definition = table := by
  unfold attempt
  split
  · next defined success => exact absurd known (exists_define_iff.1 ⟨defined, success⟩)
  · rfl

/-- A new name is added behind the others. -/
theorem symbols_attempt_of_not_mem (fresh : definition.1 ∉ table.names) :
    (table.attempt definition).symbols = table.symbols ++ [Symbol.ofDefinition definition] := by
  have succeeds : ∃ defined, table.define definition.1 definition.2 = .ok defined :=
    exists_define_iff.2 fresh
  rcases succeeds with ⟨defined, success⟩
  simp only [attempt, success]
  exact symbols_of_define_eq_ok success

theorem records_nil (noLabels : table.symbols = []) : Records [] table := by
  constructor
  · simp [names, noLabels]
  · simp [noLabels]

theorem Records.mem_names_iff (records : Records history table) (name : Text) :
    name ∈ table.names ↔ name ∈ history.map Prod.fst := by
  rw [records.names, List.mem_eraseDups]

/-- A label is still at the address of the first try of its name after one try more. -/
theorem Records.addresses_append (records : Records history table) (definition : Text × Int)
    {symbol : Symbol} (member : symbol ∈ table.symbols) :
    ∃ address, (history ++ [definition]).find? (·.1 == symbol.name) =
        some (symbol.name, address) ∧ symbol.address.toInt = address.bmod (2 ^ 32) := by
  rcases records.addresses symbol member with ⟨address, first, wrapped⟩
  refine ⟨address, ?_, wrapped⟩
  rw [List.find?_append, first, Option.some_or]

theorem find?_append_of_untried (untried : definition.1 ∉ history.map Prod.fst) :
    (history ++ [definition]).find? (·.1 == definition.1) = some definition := by
  have notBefore : history.find? (·.1 == definition.1) = none := by
    apply List.find?_eq_none.2
    intro other member sameName
    apply untried
    rw [← eq_of_beq sameName]
    exact List.mem_map_of_mem member
  rw [List.find?_append, notBefore, Option.none_or]
  simp

/-- One try more is recorded, whether it succeeds or fails. -/
theorem Records.attempt (records : Records history table) (definition : Text × Int) :
    Records (history ++ [definition]) (table.attempt definition) := by
  have tried := records.mem_names_iff definition.1
  by_cases known : definition.1 ∈ table.names
  · rw [attempt_of_mem known]
    constructor
    · rw [List.map_append, List.map_singleton, eraseDups_append_singleton, if_pos (tried.1 known)]
      exact records.names
    · intro symbol member
      exact records.addresses_append definition member
  · have symbols := symbols_attempt_of_not_mem known
    have untried : definition.1 ∉ history.map Prod.fst := fun before => known (tried.2 before)
    constructor
    · rw [SymbolTable.names, symbols, List.map_append, List.map_append, List.map_singleton,
        List.map_singleton, eraseDups_append_singleton, if_neg untried, ← records.names]
      rfl
    · intro symbol member
      rw [symbols, List.mem_append, List.mem_singleton] at member
      rcases member with old | rfl
      · exact records.addresses_append definition old
      · exact ⟨definition.2, find?_append_of_untried untried, Word.toInt_ofInt definition.2⟩

/-- Tries one after another are recorded in their order. -/
theorem Records.attemptAll (records : Records history table) (later : List (Text × Int)) :
    Records (history ++ later) (table.attemptAll later) := by
  induction later generalizing history table with
  | nil =>
      rw [List.append_nil]
      exact records
  | cons definition later ih =>
      have next := ih (records.attempt definition)
      rwa [List.append_assoc, List.singleton_append] at next

end PseudoAsm.SymbolTable
