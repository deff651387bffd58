import PseudoAsm.Proofs.Statement.Resolution
import PseudoAsm.Proofs.Table.Scan
import PseudoAsm.Proofs.Text.Suggestion
import PseudoAsm.Table.Builtin

/-!
# Names offered in place of unknown ones

When a mnemonic or a label is not known, the error offers names that may have been meant: the first
three that resemble it among the mnemonics of the table, in lower case and in the order of the
table, or among the labels in scope, the nearest first. An offer can be taken: the table has forms
of a mnemonic that is offered, and a label that is offered has an address. So the name that was not
known is never offered itself.
-/

namespace PseudoAsm

/-- The mnemonics that a table offers in place of one that it does not have. -/
structure Table.Offers (table : Table) (mnemonic : Text) (offered : List Text) : Prop where
  first : FirstDistinct (Text.Resembles (Text.lowercase mnemonic)) 3
    (table.forms.map fun form => Text.lowercase form.mnemonic) offered
  other : mnemonic ∉ offered ∧ Text.lowercase mnemonic ∉ offered
  known : ∀ name ∈ offered, ∃ forms, table.lookup name = .ok forms

/-- The labels that are offered in place of one that is not in scope. -/
structure Scope.Offers (scope : Scope) (label : Text) (offered : List Text) : Prop where
  first : FirstDistinct (Text.Resembles label) 3 scope.names offered
  other : label ∉ offered
  defined : ∀ name ∈ offered, ∃ address, scope.address? name = some address

namespace Table

variable {table : Table} {mnemonic : Text}

/-- A table has forms of a mnemonic if one of its forms has it. -/
theorem exists_lookup_eq_ok_iff :
    (∃ forms, table.lookup mnemonic = .ok forms) ↔
      ∃ form ∈ table.forms, form.HasMnemonic mnemonic := by
  have unknown : table.formsOf mnemonic = [] ↔ ∀ form ∈ table.forms, ¬ form.HasMnemonic mnemonic :=
    formsOf_eq_nil_iff
  unfold lookup
  cases found : table.formsOf mnemonic with
  | nil => simpa using unknown.1 found
  | cons first later =>
      rw [found] at unknown
      simpa using unknown

theorem lookup_of_unknown (unknown : ∀ form ∈ table.forms, ¬ form.HasMnemonic mnemonic) :
    table.lookup mnemonic = .error (.unknownMnemonic mnemonic
      (Text.suggestions (Text.lowercase mnemonic)
        (table.forms.map fun form => Text.lowercase form.mnemonic))) := by
  unfold lookup
  rw [formsOf_eq_nil_iff.2 unknown, mnemonics_eq_eraseDups, Text.suggestions_eraseDups]

/-- A table has forms of the mnemonics in its list, which are in lower case. -/
theorem exists_lookup_of_mem {name : Text}
    (member : name ∈ table.forms.map fun form => Text.lowercase form.mnemonic) :
    ∃ forms, table.lookup name = .ok forms := by
  rcases List.mem_map.1 member with ⟨form, inTable, rfl⟩
  exact exists_lookup_eq_ok_iff.2 ⟨form, inTable, (Text.lowercase_lowercase _).symm⟩

theorem offers_iff (unknown : ∀ form ∈ table.forms, ¬ form.HasMnemonic mnemonic)
    {offered : List Text} :
    table.Offers mnemonic offered ↔
      offered = Text.suggestions (Text.lowercase mnemonic)
        (table.forms.map fun form => Text.lowercase form.mnemonic) := by
  rw [Text.suggestions_eq_iff]
  refine ⟨Offers.first, fun first => ?_⟩
  have known : ∀ name ∈ offered, ∃ forms, table.lookup name = .ok forms :=
    fun name member => exists_lookup_of_mem (first.fitting name member).1
  -- Forms of a name that differs in case only would be forms of the mnemonic itself.
  have other : ∀ name ∈ offered, Text.lowercase name ≠ Text.lowercase mnemonic := by
    intro name member same
    rcases exists_lookup_eq_ok_iff.1 (known name member) with ⟨form, inTable, hasName⟩
    exact unknown form inTable (hasName.trans same)
  refine ⟨first, ⟨fun member => other _ member rfl, fun member => ?_⟩, known⟩
  exact other _ member (Text.lowercase_lowercase mnemonic)

end Table

namespace Scope

variable {scope : Scope} {label : Text}

theorem offers_iff (undefined : label ∉ scope.names) {offered : List Text} :
    scope.Offers label offered ↔ offered = Text.suggestions label scope.names := by
  rw [Text.suggestions_eq_iff]
  refine ⟨Offers.first, fun first => ⟨first, ?_, ?_⟩⟩
  · intro member
    exact undefined (first.fitting label member).1
  · intro name member
    have inScope := (first.fitting name member).1
    exact Option.isSome_iff_exists.1 (address?_isSome_iff.2 inScope)

end Scope

/-- A mnemonic that no form has and the leftmost label that is not in scope are reported with the
names that are offered in their place, and there is only one list of names to offer. -/
theorem offers_can_be_taken :
    (∀ (table : Table) (mnemonic : Text),
      (∀ form ∈ table.forms, ¬ form.HasMnemonic mnemonic) →
      ∃ offered, table.lookup mnemonic = .error (.unknownMnemonic mnemonic offered) ∧
        ∀ names, table.Offers mnemonic names ↔ names = offered) ∧
    (∀ (scope : Scope) (words before : List Text) (label : Text) (after : List Text),
      words.tail = before ++ label :: after →
      (∀ earlier ∈ before, ¬ Statement.IsUndefined scope earlier) →
      Statement.IsUndefined scope label →
      ∃ offered, Statement.resolveWords scope words = .error (.undefinedSymbol label offered) ∧
        ∀ names, scope.Offers label names ↔ names = offered) := by
  constructor
  · intro table mnemonic unknown
    exact ⟨_, Table.lookup_of_unknown unknown, fun names => Table.offers_iff unknown⟩
  · intro scope words before label after isWords defined undefined
    refine ⟨Text.suggestions label scope.names, ?_, fun names => ?_⟩
    · exact Statement.resolveWords_eq_error_iff.2
        ⟨before, label, after, isWords, defined, undefined, rfl⟩
    · exact Scope.offers_iff (Statement.isUndefined_iff.1 undefined).2

/-- Labels with much the same names, one of them in both tables. -/
def similarLabels : Scope :=
  [⟨"file".toList, [⟨"Main".toList, 0⟩, ⟨"loop".toList, 4⟩], by decide⟩,
    ⟨SymbolTable.globalName,
      [⟨"main".toList, 8⟩, ⟨"loop".toList, 12⟩, ⟨"min".toList, 16⟩, ⟨"mean".toList, 20⟩],
      by decide⟩]

/-- The label `mean` resembles the word as well, but would be a fourth offer. -/
theorem offers_can_be_taken_misspelt :
    Table.builtin.Offers "LLA".toList (["ble", "li", "la"].map String.toList) ∧
    similarLabels.Offers "mian".toList (["Main", "main", "min"].map String.toList) := by
  have noForm : ∀ form ∈ Table.builtin.forms, ¬ form.HasMnemonic "LLA".toList := by
    decide +kernel
  have noLabel : Statement.IsUndefined similarLabels "mian".toList :=
    Statement.isUndefined_iff.2 (by decide)
  constructor
  · rcases offers_can_be_taken.1 Table.builtin "LLA".toList noForm with ⟨offered, failed, only⟩
    have lookedUp : Table.builtin.lookup "LLA".toList = .error (.unknownMnemonic "LLA".toList
        (["ble", "li", "la"].map String.toList)) := by
      decide +kernel
    simp only [lookedUp, Except.error.injEq, ExpansionError.unknownMnemonic.injEq, true_and]
      at failed
    exact (only _).2 failed
  · rcases offers_can_be_taken.2 similarLabels (["call", "mian"].map String.toList) [] _ [] rfl
      (by simp) noLabel with ⟨offered, failed, only⟩
    have resolved : Statement.resolveWords similarLabels (["call", "mian"].map String.toList) =
        .error (.undefinedSymbol "mian".toList (["Main", "main", "min"].map String.toList)) := by
      decide +kernel
    simp only [resolved, Except.error.injEq, ExpansionError.undefinedSymbol.injEq, true_and]
      at failed
    exact (only _).2 failed

end PseudoAsm
