import PseudoAsm.Proofs.Symbol.History
import PseudoAsm.Symbol.Forest

/-!
# Tables that are filled in turn

Labels are defined in the tables of a forest in any order, and a definition that fails leaves all of
them as they are. A definition is tried in the table at its place alone, so each table keeps what
its own history says, whatever is defined in the others.

Definitions never change which table is the parent of which. A chain of tables is therefore found at
the same places before and after them, and what it answers follows from what its tables hold.
-/

namespace PseudoAsm

namespace Scope

/-- What a chain of tables answers, in terms of what its tables hold: a name means the label of the
nearest table that has it, and the names in scope are those with a meaning, each once, those of the
innermost table first. -/
structure AnswersFromTables (scope : Scope) : Prop where
  nearest : ∀ name address, scope.address? name = some address ↔
    ∃ nearer table farther, scope = nearer ++ table :: farther ∧
      (∀ other ∈ nearer, name ∉ other.names) ∧ ⟨name, address⟩ ∈ table.symbols
  nodup_names : scope.names.Nodup
  mem_names_iff : ∀ name, name ∈ scope.names ↔ scope.address? name ≠ none
  own_first : ∀ table outer, scope = table :: outer →
    ∃ inherited, scope.names = table.names ++ inherited ∧ inherited.Sublist (names outer)

/-- Look-up by name answers from the tables in their order. -/
theorem answersFromTables (scope : Scope) : scope.AnswersFromTables where
  nearest _ _ := address?_eq_some_iff
  nodup_names := scope.nodup_names
  mem_names_iff _ := by rw [← address?_isSome_iff, Option.isSome_iff_ne_none]
  own_first := by
    rintro table outer rfl
    exact ⟨_, rfl, List.filter_sublist⟩

end Scope

namespace Forest

/-- A label that is to be defined in the table at a place. -/
structure Definition where
  place : Nat
  name : Text
  address : Int

/-- The forest after a definition was tried in it. -/
def attempt (forest : Forest) (definition : Definition) : Forest :=
  match forest.define definition.place definition.name definition.address with
  | .ok defined => defined
  | .error _ => forest

/-- The forest after definitions were tried in it, one after the other. -/
def attemptAll (forest : Forest) (definitions : List Definition) : Forest :=
  definitions.foldl attempt forest

/-- What is tried in the table at a place. -/
def triedAt (place : Nat) (definitions : List Definition) : List (Text × Int) :=
  (definitions.filter (·.place = place)).map fun definition => (definition.name, definition.address)

/-- The places of a table, of its parent, and so on. -/
def chain (place : Nat) : Forest → List Nat
  | [] => []
  | newest :: older =>
    if place = older.length then
      place ::
        match newest.parent with
        | none => []
        | some parent => chain parent older
    else chain place older

variable {newest : ScopedTable} {older forest : Forest} {definition : Definition}
  {table : SymbolTable} {place : Nat}

section Places

theorem exists_table?_of_lt_length (lt : place < forest.length) :
    ∃ table, forest.table? place = some table := by
  induction forest with
  | nil => cases lt
  | cons newest older ih =>
      rw [table?]
      split
      · exact ⟨newest.table, rfl⟩
      · next notHere =>
          apply ih
          rw [List.length_cons] at lt
          omega

theorem exists_mem_of_table?_eq_some (found : forest.table? place = some table) :
    ∃ entry ∈ forest, entry.table = table := by
  induction forest with
  | nil => cases found
  | cons newest older ih =>
      rw [table?] at found
      split at found
      · cases found
        exact ⟨newest, List.mem_cons_self, rfl⟩
      · rcases ih found with ⟨entry, member, rfl⟩
        exact ⟨entry, List.mem_cons_of_mem _ member, rfl⟩

theorem exists_scope_eq_cons (found : forest.table? place = some table) :
    ∃ outer, forest.scope place = table :: outer := by
  induction forest with
  | nil => cases found
  | cons newest older ih =>
      rw [table?] at found
      rw [scope]
      split at found
      · next here =>
          cases found
          exact ⟨_, if_pos here⟩
      · next notHere =>
          rw [if_neg notHere]
          exact ih found

theorem lt_length_of_mem_chain {other : Nat} (member : other ∈ chain place forest) :
    other < forest.length := by
  induction forest generalizing place with
  | nil => cases member
  | cons newest older ih =>
      rw [List.length_cons]
      rw [chain] at member
      split at member
      · next here =>
          rcases List.mem_cons.1 member with rfl | inParents
          · omega
          · split at inParents
            · cases inParents
            · exact Nat.lt_succ_of_lt (ih inParents)
      · exact Nat.lt_succ_of_lt (ih member)

/-- Tables made before are found as they were without the newest one. -/
theorem map_table?_cons_of_forall_lt {places : List Nat}
    (areOlder : ∀ place ∈ places, place < older.length) :
    places.map (fun place => table? place (newest :: older)) =
      places.map fun place => table? place older := by
  apply List.map_congr_left
  intro place member
  rw [table?, if_neg (Nat.ne_of_lt (areOlder place member))]

/-- A scope is made of the tables at the places of its chain. -/
theorem map_some_scope (forest : Forest) (place : Nat) :
    (scope place forest).map some = (chain place forest).map fun place => table? place forest := by
  induction forest generalizing place with
  | nil => rfl
  | cons newest older ih =>
      rw [scope, chain]
      split
      · next here =>
          rw [List.map_cons, List.map_cons, table?, if_pos here]
          congr 1
          cases newest.parent with
          | none => rfl
          | some parent =>
              -- The parents are among the older tables, which are found as before.
              exact (ih parent).trans
                (map_table?_cons_of_forall_lt fun _ => lt_length_of_mem_chain).symm
      · rw [ih, map_table?_cons_of_forall_lt fun _ => lt_length_of_mem_chain]

end Places

section Attempt

/-- A definition in the newest table leaves the older ones as they are. -/
theorem attempt_newest (isNewest : definition.place = older.length) :
    attempt (newest :: older) definition =
      ⟨newest.table.attempt (definition.name, definition.address), newest.parent⟩ :: older := by
  unfold attempt define SymbolTable.attempt
  rw [if_pos isNewest]
  cases newest.table.define definition.name definition.address with
  | error error => rfl
  | ok defined => rfl

/-- A definition in an older table leaves the newest one as it is. -/
theorem attempt_older (isOlder : definition.place ≠ older.length) :
    attempt (newest :: older) definition = newest :: attempt older definition := by
  unfold attempt
  rw [define, if_neg isOlder]
  cases define definition.place definition.name definition.address older with
  | error error => rfl
  | ok defined => rfl

@[simp]
theorem length_attempt (forest : Forest) (definition : Definition) :
    (forest.attempt definition).length = forest.length := by
  induction forest with
  | nil => rfl
  | cons newest older ih =>
      by_cases isNewest : definition.place = older.length
      · rw [attempt_newest isNewest, List.length_cons, List.length_cons]
      · rw [attempt_older isNewest, List.length_cons, List.length_cons, ih]

theorem attemptAll_triedAt_of_ne (elsewhere : definition.place ≠ place) (table : SymbolTable) :
    table.attemptAll (triedAt place [definition]) = table := by
  simp [triedAt, elsewhere, SymbolTable.attemptAll]

/-- A definition is tried in the table at its place, and all other tables stay as they are. -/
theorem table?_attempt (forest : Forest) (definition : Definition) (place : Nat) :
    (forest.attempt definition).table? place =
      (forest.table? place).map (·.attemptAll (triedAt place [definition])) := by
  induction forest with
  | nil => rfl
  | cons newest older ih =>
      by_cases isNewest : definition.place = older.length
      · rw [attempt_newest isNewest, table?, table?]
        by_cases here : place = older.length
        · rw [if_pos here, if_pos here]
          simp [triedAt, isNewest, here, SymbolTable.attemptAll]
        · have elsewhere : definition.place ≠ place := by omega
          rw [if_neg here, if_neg here]
          simp only [attemptAll_triedAt_of_ne elsewhere, Option.map_id']
      · rw [attempt_older isNewest, table?, table?, length_attempt, ih]
        split
        · next here =>
            have elsewhere : definition.place ≠ place := by omega
            rw [Option.map_some, attemptAll_triedAt_of_ne elsewhere]
        · rfl

/-- The parents of a table stay what they are. -/
@[simp]
theorem chain_attempt (forest : Forest) (definition : Definition) (place : Nat) :
    chain place (forest.attempt definition) = chain place forest := by
  induction forest generalizing place with
  | nil => rfl
  | cons newest older ih =>
      by_cases isNewest : definition.place = older.length
      · rw [attempt_newest isNewest]
        rfl
      · rw [attempt_older isNewest, chain, chain, length_attempt]
        simp only [ih]

/-- A definition fails as it would in the table at its place alone. -/
theorem define_eq_error_iff {name : Text} {address : Int} {error : ExpansionError}
    (found : forest.table? place = some table) :
    forest.define place name address = .error error ↔ table.define name address = .error error := by
  induction forest with
  | nil => cases found
  | cons newest older ih =>
      rw [table?] at found
      rw [define]
      split at found
      · next here =>
          cases found
          rw [if_pos here, Outcome.map_eq_error_iff]
      · next notHere =>
          rw [if_neg notHere, Outcome.map_eq_error_iff]
          exact ih found

/-- Whether a definition fails is decided by the names of the table at its place. -/
theorem define_cases {name : Text} {address : Int} (found : forest.table? place = some table) :
    (name ∉ table.names ∧ ∃ defined, forest.define place name address = .ok defined) ∨
    (name ∈ table.names ∧ ∃ symbol ∈ table.symbols, symbol.name = name ∧
      forest.define place name address =
        .error (.duplicateSymbol name (some symbol.address))) := by
  cases outcome : forest.define place name address with
  | ok defined =>
      left
      refine ⟨?_, defined, rfl⟩
      intro known
      cases inTable : table.define name address with
      | ok extended => exact SymbolTable.exists_define_iff.1 ⟨extended, inTable⟩ known
      | error error =>
          have failed := (define_eq_error_iff found).2 inTable
          rw [outcome] at failed
          cases failed
  | error error =>
      right
      rcases SymbolTable.define_eq_error_iff.1 ((define_eq_error_iff found).1 outcome) with
        ⟨symbol, inTable, rfl⟩
      rcases SymbolTable.find?_eq_some_iff.1 inTable with ⟨member, rfl⟩
      exact ⟨List.mem_map_of_mem member, symbol, member, rfl, rfl⟩

end Attempt

section AttemptAll

theorem attemptAll_append (before later : List Definition) (forest : Forest) :
    forest.attemptAll (before ++ later) = (forest.attemptAll before).attemptAll later :=
  List.foldl_append

/-- A table holds what was tried in it, whatever was tried in others. -/
theorem table?_attemptAll (definitions : List Definition) (forest : Forest) (place : Nat) :
    (forest.attemptAll definitions).table? place =
      (forest.table? place).map (·.attemptAll (triedAt place definitions)) := by
  induction definitions generalizing forest with
  | nil => simp [attemptAll, triedAt, SymbolTable.attemptAll]
  | cons definition definitions ih =>
      have tried : triedAt place (definition :: definitions) =
          triedAt place [definition] ++ triedAt place definitions := by
        rw [triedAt, ← List.singleton_append, List.filter_append, List.map_append]
        rfl
      change ((forest.attempt definition).attemptAll definitions).table? place = _
      rw [ih, table?_attempt, Option.map_map, tried]
      congr 1
      funext table
      simp only [Function.comp_apply, SymbolTable.attemptAll, List.foldl_append]

@[simp]
theorem chain_attemptAll (definitions : List Definition) (forest : Forest) (place : Nat) :
    chain place (forest.attemptAll definitions) = chain place forest := by
  induction definitions generalizing forest with
  | nil => rfl
  | cons definition definitions ih =>
      change chain place ((forest.attempt definition).attemptAll definitions) = _
      rw [ih, chain_attempt]

/-- A definition that fails can be left out of all that are tried. -/
theorem attemptAll_of_define_eq_error {before later : List Definition} {error : ExpansionError}
    (failed : (forest.attemptAll before).define definition.place definition.name
      definition.address = .error error) :
    forest.attemptAll (before ++ definition :: later) = forest.attemptAll (before ++ later) := by
  have unchanged : (forest.attemptAll before).attempt definition = forest.attemptAll before := by
    rw [attempt, failed]
  rw [attemptAll_append, attemptAll_append]
  change ((forest.attemptAll before).attempt definition).attemptAll later = _
  rw [unchanged]

/-- Each table records what was tried in it. -/
theorem exists_records_attemptAll (new : ∀ entry ∈ forest, entry.table.symbols = [])
    (definitions : List Definition) (lt : place < forest.length) :
    ∃ table, (forest.attemptAll definitions).table? place = some table ∧
      table.Records (triedAt place definitions) := by
  rcases exists_table?_of_lt_length lt with ⟨table, found⟩
  rcases exists_mem_of_table?_eq_some found with ⟨entry, member, rfl⟩
  refine ⟨entry.table.attemptAll (triedAt place definitions), ?_, ?_⟩
  · rw [table?_attemptAll, found, Option.map_some]
  · exact (SymbolTable.records_nil (new entry member)).attemptAll _

end AttemptAll

/-- Labels are defined in new tables, in any order, and some definitions may fail. Exactly those
fail that repeat a name of their own table, and they may as well not be tried. Each table holds the
names that were tried in it, at their first addresses; chains of tables stay where they are, and
what they answer follows from what their tables hold. -/
theorem tables_record_first_definitions
    (new : ∀ entry ∈ forest, entry.table.symbols = []) (definitions : List Definition) :
    (∀ before definition later, definitions = before ++ definition :: later →
      definition.place < forest.length →
      ∃ table, (forest.attemptAll before).table? definition.place = some table ∧
        (definition.name ∉ table.names → ∃ defined, (forest.attemptAll before).define
          definition.place definition.name definition.address = .ok defined) ∧
        (definition.name ∈ table.names →
          (∃ symbol ∈ table.symbols, symbol.name = definition.name ∧
            (forest.attemptAll before).define definition.place definition.name
                definition.address =
              .error (.duplicateSymbol definition.name (some symbol.address))) ∧
          forest.attemptAll definitions = forest.attemptAll (before ++ later))) ∧
    (∀ place < forest.length, ∃ table outer,
      (forest.attemptAll definitions).table? place = some table ∧
        (forest.attemptAll definitions).scope place = table :: outer ∧
        table.Records (triedAt place definitions)) ∧
    ∀ place,
      ((forest.attemptAll definitions).scope place).map some =
          (forest.chain place).map (fun place => (forest.attemptAll definitions).table? place) ∧
        ((forest.attemptAll definitions).scope place).AnswersFromTables := by
  refine ⟨?_, ?_, ?_⟩
  · rintro before definition later rfl lt
    rcases exists_records_attemptAll new before lt with ⟨table, found, _⟩
    refine ⟨table, found, ?_, ?_⟩
    · intro fresh
      rcases define_cases found with ⟨_, success⟩ | ⟨known, _⟩
      · exact success
      · exact absurd known fresh
    · intro known
      rcases define_cases found with ⟨fresh, _⟩ | ⟨_, symbol, member, sameName, failed⟩
      · exact absurd known fresh
      · exact ⟨⟨symbol, member, sameName, failed⟩, attemptAll_of_define_eq_error failed⟩
  · intro place lt
    rcases exists_records_attemptAll new definitions lt with ⟨table, found, records⟩
    rcases exists_scope_eq_cons found with ⟨outer, inner⟩
    exact ⟨table, outer, found, inner, records⟩
  · intro place
    refine ⟨?_, Scope.answersFromTables _⟩
    rw [map_some_scope, chain_attemptAll]

/-- Three tables, the ones made later inside of those made before. -/
def nestedTables : Forest :=
  [⟨.empty "inner".toList, some 1⟩, ⟨.empty "file".toList, some 0⟩,
    ⟨.empty SymbolTable.globalName, none⟩]

/-- Definitions of one name in two tables. -/
def earlierDefinitions : List Definition :=
  [⟨1, "a".toList, 4⟩, ⟨0, "a".toList, 8⟩]

/-- A second definition in the table of the file. -/
def repeatedDefinition : Definition :=
  ⟨1, "a".toList, 12⟩

/-- A definition out of the range of signed words, and one more of the name. -/
def laterDefinitions : List Definition :=
  [⟨0, "b".toList, 2 ^ 31⟩, ⟨2, "a".toList, 2 ^ 32 + 16⟩]

/-- A definition fails in the table of the file, where the name was defined before, and not in the
tables around it. -/
theorem tables_record_first_definitions_nested :
    (∀ entry ∈ nestedTables, entry.table.symbols = []) ∧
    (∃ table, (nestedTables.attemptAll earlierDefinitions).table? 1 = some table ∧
      "a".toList ∈ table.names ∧
      ∃ symbol ∈ table.symbols, (nestedTables.attemptAll earlierDefinitions).define 1 "a".toList 12 =
        .error (.duplicateSymbol "a".toList (some symbol.address))) ∧
    nestedTables.attemptAll (earlierDefinitions ++ repeatedDefinition :: laterDefinitions) =
      nestedTables.attemptAll (earlierDefinitions ++ laterDefinitions) ∧
    (∃ table outer, (nestedTables.attemptAll (earlierDefinitions ++ laterDefinitions)).scope 0 =
        table :: outer ∧
      table.Records [("a".toList, 8), ("b".toList, 2 ^ 31)]) ∧
    nestedTables.chain 2 = [2, 1, 0] ∧
    ((nestedTables.attemptAll (earlierDefinitions ++ laterDefinitions)).scope 2).AnswersFromTables
    := by
  have new : ∀ entry ∈ nestedTables, entry.table.symbols = [] := by
    simp [nestedTables, SymbolTable.empty]
  rcases tables_record_first_definitions new
    (earlierDefinitions ++ repeatedDefinition :: laterDefinitions) with ⟨each, _, _⟩
  rcases tables_record_first_definitions new (earlierDefinitions ++ laterDefinitions) with
    ⟨_, tables, scopes⟩
  rcases each earlierDefinitions repeatedDefinition laterDefinitions rfl (by decide) with
    ⟨table, found, _, repeated⟩
  have names : ((nestedTables.attemptAll earlierDefinitions).table? 1).map SymbolTable.names =
      some ["a".toList] := rfl
  have inTable : (nestedTables.attemptAll earlierDefinitions).table? 1 = some table := found
  have known : "a".toList ∈ table.names := by
    rw [inTable, Option.map_some, Option.some.injEq] at names
    simp [names]
  rcases repeated known with ⟨⟨symbol, member, _, failed⟩, unchanged⟩
  rcases tables 0 (by decide) with ⟨outermost, outer, _, inner, records⟩
  exact ⟨new, ⟨table, found, known, symbol, member, failed⟩, unchanged,
    ⟨outermost, outer, inner, records⟩, rfl, (scopes 2).2⟩

end Forest

end PseudoAsm
