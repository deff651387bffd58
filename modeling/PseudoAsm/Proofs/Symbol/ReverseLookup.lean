import PseudoAsm.Proofs.Symbol.Definitions
import PseudoAsm.Proofs.Word.Split

/-!
# Which label is shown at an address

Addresses are asked for as integers or as texts, and labels are defined at integers; all of them are
taken modulo `2 ^ 32`. A text that is no literal, or one that does not fit in 32 bits, is no address
and shows nothing. A label is shown at an address if any table of the chain has one there: of the
tables that do, the nearest one is taken, and of its labels there the one defined first. So the
address of a name is always shown as some label, though maybe as another one.
-/

namespace PseudoAsm

/-- Whether a label stands at an address, up to turns around the address space. -/
def Symbol.StandsAt (symbol : Symbol) (address : Int) : Prop :=
  symbol.address.toInt ≡ address [ZMOD 2 ^ 32]

/-- The label of a table that was defined first among those at an address. -/
def SymbolTable.FirstAt (table : SymbolTable) (address : Int) (symbol : Symbol) : Prop :=
  ∃ earlier later, table.symbols = earlier ++ symbol :: later ∧
    (∀ other ∈ earlier, ¬ other.StandsAt address) ∧ symbol.StandsAt address

/-- Whether no table of a chain has a label at an address. -/
def Scope.IsBareAt (scope : Scope) (address : Int) : Prop :=
  ∀ table ∈ scope, ∀ symbol ∈ table.symbols, ¬ symbol.StandsAt address

/-- The label defined first at an address in the nearest table of a chain that has one there. -/
def Scope.NearestAt (scope : Scope) (address : Int) (symbol : Symbol) : Prop :=
  ∃ nearer table farther, scope = nearer ++ table :: farther ∧ Scope.IsBareAt nearer address ∧
    table.FirstAt address symbol

/-- A label stands at a number if it has the word of this number as its address. -/
theorem Symbol.standsAt_iff {symbol : Symbol} {address : Int} :
    symbol.StandsAt address ↔ symbol.address = Word.ofInt address := by
  have wrapped : Word.ofInt symbol.address.toInt = symbol.address := by
    rw [Word.ofInt, BitVec.ofInt_toInt]
  rw [StandsAt, ← Word.ofInt_eq_ofInt_iff, wrapped]

namespace SymbolTable

variable {table : SymbolTable} {address : Int} {symbol : Symbol}

theorem labelAt?_ofInt_eq_none_iff :
    table.labelAt? (Word.ofInt address) = none ↔
      ∀ symbol ∈ table.symbols, ¬ symbol.StandsAt address := by
  simp only [labelAt?_eq_none_iff, Symbol.standsAt_iff, ne_eq]

/-- In one table the first label at the address is found. -/
theorem labelAt?_ofInt_eq_some_iff :
    table.labelAt? (Word.ofInt address) = some symbol ↔ table.FirstAt address symbol := by
  rw [labelAt?, List.find?_eq_some_iff_append, FirstAt]
  simp only [Symbol.standsAt_iff, beq_iff_eq, Bool.not_eq_true', beq_eq_false_iff_ne, ne_eq]
  constructor
  · rintro ⟨stands, earlier, later, parts, before⟩
    exact ⟨earlier, later, parts, before, stands⟩
  · rintro ⟨earlier, later, parts, before, stands⟩
    exact ⟨stands, earlier, later, parts, before⟩

/-- In a table made of definitions, the first definition at a congruent address counts. -/
theorem labelAt?_ofInt_of_ofDefinitions {title : Text} {definitions : List (Text × Int)}
    (made : ofDefinitions title definitions = .ok table) (address : Int) :
    table.labelAt? (Word.ofInt address) =
      (definitions.find? fun definition => definition.2 ≡ address [ZMOD 2 ^ 32]).map
        Symbol.ofDefinition := by
  rw [labelAt?, symbols_of_ofDefinitions_eq_ok made, List.find?_map]
  congr 2
  funext definition
  rw [Function.comp_apply, Bool.beq_eq_decide_eq, decide_eq_decide]
  exact Word.ofInt_eq_ofInt_iff definition.2 address

end SymbolTable

namespace Scope

variable {scope : Scope} {address : Int} {symbol : Symbol} {text : Text} {word : Word}

theorem labelAt?_ofInt_eq_none_iff :
    scope.labelAt? (Word.ofInt address) = none ↔ scope.IsBareAt address := by
  simp only [labelAt?, List.findSome?_eq_none_iff, SymbolTable.labelAt?_ofInt_eq_none_iff, IsBareAt]

/-- In a chain of tables the nearest one with a label there decides. -/
theorem labelAt?_ofInt_eq_some_iff :
    scope.labelAt? (Word.ofInt address) = some symbol ↔ scope.NearestAt address symbol := by
  rw [labelAt?, List.findSome?_eq_some_iff, NearestAt]
  simp only [SymbolTable.labelAt?_ofInt_eq_some_iff, SymbolTable.labelAt?_ofInt_eq_none_iff]
  constructor
  · rintro ⟨nearer, table, farther, parts, first, bare⟩
    exact ⟨nearer, table, farther, parts, bare, first⟩
  · rintro ⟨nearer, table, farther, parts, bare, first⟩
    exact ⟨nearer, table, farther, parts, first, bare⟩

/-- A text stands for the number that it spells. -/
theorem labelAtText?_of_readWord_eq_ok (read : Numeral.readWord text = .ok word) :
    scope.labelAtText? text = scope.labelAt? (Word.ofInt word.toInt) := by
  rw [labelAtText?, Numeral.word?, read, Word.ofInt, BitVec.ofInt_toInt]
  rfl

theorem labelAtText?_of_readWord_eq_error {fault : Numeral.Fault}
    (unread : Numeral.readWord text = .error fault) : scope.labelAtText? text = none := by
  rw [labelAtText?, Numeral.word?, unread]
  rfl

theorem labelAtText?_eq_none_iff :
    scope.labelAtText? text = none ↔
      (∃ fault, Numeral.readWord text = .error fault) ∨
        ∃ word, Numeral.readWord text = .ok word ∧ scope.IsBareAt word.toInt := by
  cases read : Numeral.readWord text with
  | error fault => simp [labelAtText?_of_readWord_eq_error read]
  | ok word =>
      rw [labelAtText?_of_readWord_eq_ok read, labelAt?_ofInt_eq_none_iff]
      simp

theorem labelAtText?_eq_some_iff :
    scope.labelAtText? text = some symbol ↔
      ∃ word, Numeral.readWord text = .ok word ∧ scope.NearestAt word.toInt symbol := by
  cases read : Numeral.readWord text with
  | error fault => simp [labelAtText?_of_readWord_eq_error read]
  | ok word =>
      rw [labelAtText?_of_readWord_eq_ok read, labelAt?_ofInt_eq_some_iff]
      simp

/-- A label is shown at an address exactly if some table has one there, and then it is the one
defined first in the nearest such table, whether the address is a number or is spelt by a text. A
table shows the first of its definitions at the address, and what a name means is always shown. -/
theorem nearest_first_definition_is_shown (scope : Scope) :
    (∀ address : Int,
      (scope.labelAt? (Word.ofInt address) = none ↔ scope.IsBareAt address) ∧
      ∀ symbol, scope.labelAt? (Word.ofInt address) = some symbol ↔
        scope.NearestAt address symbol) ∧
    (∀ text : Text,
      (scope.labelAtText? text = none ↔
        (∃ fault, Numeral.readWord text = .error fault) ∨
          ∃ word, Numeral.readWord text = .ok word ∧ scope.IsBareAt word.toInt) ∧
      (∀ symbol, scope.labelAtText? text = some symbol ↔
        ∃ word, Numeral.readWord text = .ok word ∧ scope.NearestAt word.toInt symbol) ∧
      ∀ word, Numeral.readWord text = .ok word →
        scope.labelAtText? text = scope.labelAt? (Word.ofInt word.toInt)) ∧
    (∀ title definitions table address,
      SymbolTable.ofDefinitions title definitions = .ok table →
        labelAt? (table :: scope) (Word.ofInt address) =
          ((definitions.find? fun definition => definition.2 ≡ address [ZMOD 2 ^ 32]).map
            Symbol.ofDefinition).or (scope.labelAt? (Word.ofInt address))) ∧
    ∀ name address, scope.address? name = some address →
      ∃ symbol, scope.labelAt? (Word.ofInt address.toInt) = some symbol := by
  refine ⟨?_, ?_, ?_, ?_⟩
  · intro address
    exact ⟨labelAt?_ofInt_eq_none_iff, fun symbol => labelAt?_ofInt_eq_some_iff⟩
  · intro text
    exact ⟨labelAtText?_eq_none_iff, fun symbol => labelAtText?_eq_some_iff,
      fun word => labelAtText?_of_readWord_eq_ok⟩
  · intro title definitions table address made
    rw [labelAt?_cons, SymbolTable.labelAt?_ofInt_of_ofDefinitions made]
  · intro name address found
    apply Option.isSome_iff_exists.1
    rw [Word.ofInt, BitVec.ofInt_toInt]
    exact labelAt?_isSome_of_address?_eq_some found

/-- A label of a file in front of two labels at the last address. -/
def aliasedScope : Scope :=
  [⟨"file".toList, [⟨"near".toList, 8⟩], by decide⟩,
    ⟨SymbolTable.globalName, [⟨"first".toList, 0xffffffff⟩, ⟨"second".toList, 0xffffffff⟩],
      by decide⟩]

/-- The last address, given as a number below zero, as a number out of range and as a text. -/
theorem nearest_first_definition_is_shown_aliases :
    aliasedScope.NearestAt (-1) ⟨"first".toList, 0xffffffff⟩ ∧
    aliasedScope.IsBareAt (2 ^ 32) ∧
    (Numeral.readWord "0xFFFFFFFF".toList = .ok 0xffffffff ∧
      aliasedScope.labelAtText? "0xFFFFFFFF".toList =
        aliasedScope.labelAt? (Word.ofInt (-1))) ∧
    (∃ table, SymbolTable.ofDefinitions [] [("a".toList, 7), ("b".toList, 2 ^ 32 - 1)] = .ok table ∧
      labelAt? (table :: aliasedScope) (Word.ofInt (-1)) = some ⟨"b".toList, 0xffffffff⟩) ∧
    (aliasedScope.address? "second".toList = some 0xffffffff ∧
      ∃ symbol, aliasedScope.labelAt? (Word.ofInt (-1)) = some symbol) := by
  rcases nearest_first_definition_is_shown aliasedScope with
    ⟨ofNumber, ofText, ofDefinitions, ofName⟩
  have made : ∃ table, SymbolTable.ofDefinitions [] [("a".toList, 7), ("b".toList, 2 ^ 32 - 1)] =
      .ok table := SymbolTable.exists_ofDefinitions_iff.2 (by decide)
  rcases made with ⟨table, success⟩
  refine ⟨((ofNumber (-1)).2 _).1 rfl, (ofNumber (2 ^ 32)).1.1 rfl, ?_, ⟨table, success, ?_⟩, ?_⟩
  · exact ⟨rfl, (ofText _).2.2 0xffffffff rfl⟩
  · rw [ofDefinitions [] _ table (-1) success]
    rfl
  · exact ⟨rfl, ofName "second".toList 0xffffffff rfl⟩

end Scope

end PseudoAsm
