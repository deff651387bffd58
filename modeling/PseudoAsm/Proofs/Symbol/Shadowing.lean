import PseudoAsm.Proofs.Symbol.Lookup

/-!
# Labels hidden by nearer tables

An address is shown as the label defined first at it in the nearest table that has one there. When
the name of this label is looked up again, the search may end earlier: at a table that has no label
at the address but another one of the same name. These are the only cases in which the two look-ups
disagree.
-/

namespace PseudoAsm.Scope

/-- The tables in front of the first one that has a label at the address. -/
def before (scope : Scope) (address : Word) : Scope :=
  scope.takeWhile fun table => (table.labelAt? address).isNone

/-- Whether a table in front of the first one with a label at the address has the name. -/
def Hides (scope : Scope) (address : Word) (name : Text) : Prop :=
  ∃ table ∈ scope.before address, name ∈ table.names

variable {table : SymbolTable} {outer scope : Scope} {address : Word} {name : Text}

/-- In the nearest table nothing is hidden. -/
theorem not_hides_of_labelAt?_eq_some {symbol : Symbol}
    (found : table.labelAt? address = some symbol) : ¬ Hides (table :: outer) address name := by
  simp [Hides, before, found]

/-- At the address of a label of the innermost table no name is hidden. -/
theorem not_hides_of_mem_names (member : name ∈ table.names)
    (found : address? (table :: outer) name = some address) (other : Text) :
    ¬ Hides (table :: outer) address other := by
  cases inTable : table.find? name with
  | none => exact absurd member (SymbolTable.find?_eq_none_iff.1 inTable)
  | some symbol =>
      rw [address?_cons_of_find?_eq_some inTable, Option.some.injEq] at found
      subst found
      rcases Option.isSome_iff_exists.1 (SymbolTable.labelAt?_isSome_of_find?_eq_some inTable) with
        ⟨first, atAddress⟩
      exact not_hides_of_labelAt?_eq_some atAddress

/-- A table in front hides a name by defining it, or leaves it as hidden as it was. -/
theorem hides_cons_iff_of_labelAt?_eq_none (absent : table.labelAt? address = none) :
    Hides (table :: outer) address name ↔ name ∈ table.names ∨ Hides outer address name := by
  simp [Hides, before, absent]

/-- The induction follows the chain of tables. At a table without a label at the address, a label of
the name ends the search for the name at another address, and otherwise both searches go on. -/
theorem address?_name_eq_some_iff {symbol : Symbol}
    (found : scope.labelAt? address = some symbol) :
    scope.address? symbol.name = some address ↔ ¬ scope.Hides address symbol.name := by
  induction scope with
  | nil => simp at found
  | cons table outer ih =>
      cases atAddress : table.labelAt? address with
      | some first =>
          rw [labelAt?_cons_of_eq_some atAddress, Option.some.injEq] at found
          subst found
          have inTable := SymbolTable.find?_name_of_labelAt?_eq_some atAddress
          rw [address?_cons_of_find?_eq_some inTable,
            (SymbolTable.mem_and_address_of_labelAt?_eq_some atAddress).2]
          simp [not_hides_of_labelAt?_eq_some atAddress]
      | none =>
          rw [labelAt?_cons_of_eq_none atAddress] at found
          rw [hides_cons_iff_of_labelAt?_eq_none atAddress]
          cases inTable : table.find? symbol.name with
          | none =>
              have notIn := SymbolTable.find?_eq_none_iff.1 inTable
              simp [address?_cons_of_find?_eq_none inTable, notIn, ih found]
          | some other =>
              rcases SymbolTable.find?_eq_some_iff.1 inTable with ⟨otherMem, sameName⟩
              have elsewhere : other.address ≠ address :=
                SymbolTable.labelAt?_eq_none_iff.1 atAddress other otherMem
              have isIn : symbol.name ∈ table.names := by
                rw [← sameName]
                exact List.mem_map_of_mem otherMem
              simp [address?_cons_of_find?_eq_some inTable, elsewhere, isIn]

end PseudoAsm.Scope
