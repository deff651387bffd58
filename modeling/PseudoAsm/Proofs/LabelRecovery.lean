import PseudoAsm.Proofs.Listing.Lines
import PseudoAsm.Proofs.Symbol.Shadowing
import PseudoAsm.Proofs.Template.Fill
import PseudoAsm.Proofs.Text.Decimal
import PseudoAsm.Table.Builtin

/-!
# Labels recovered from addresses

The operand of a branch is looked up by name, and its address takes its place. A label marker asks
for a name again, so the address is looked up in its turn, and the label that is found may be
another one. This is harmless as long as its name, looked up in the same scope, leads back to the
address. It does so exactly when no table in front of the one that gives the label has another
label of this name.

The statement is proved for the look-up itself, for a statement that is expanded on its own, and
for the statements of a listing. The jump in `shadowedJump` shows that the condition is needed: it
is expanded to a jump to itself.
-/

namespace PseudoAsm

/-- A statement whose last operand is the label `target`, at `address`, was expanded by the recipe
of a form, and the label `name` was put in place of the first label marker of each template. -/
structure BranchExpanded (expander : Expander) (wanted : Option Variant) (scope : Scope) (pc : Int)
    (statement : Statement) (expansion : Expansion) (target name : Text) (address : Word) :
    Prop where
  address_target : scope.address? target = some address
  lines : ∃ (form : Form) (recipe : Recipe) (words : List Text),
    expander.table.select statement = .ok form ∧
    form.recipe? (expander.variant wanted form) = some recipe ∧
    statement.resolve scope = .ok words ∧
    expansion.statements = Form.filledLines ⟨words, pc, scope⟩ recipe ∧
    ∀ before after, Segment.marker .label ∉ before →
      Template.fill ⟨words, pc, scope⟩ (before ++ .marker .label :: after) =
        Template.fill ⟨words, pc, scope⟩ before ++ name ++
          (Template.fillingsAfter ⟨words, pc, scope⟩ true after).flatMap Filling.text

/-- A label that is defined is replaced by an address at which a label is found again. -/
theorem exists_branchExpanded {expander : Expander} {wanted : Option Variant} {scope : Scope}
    {pc : Int} {statement : Statement} {form : Form} {expansion : Expansion} {target : Text}
    (selected : expander.table.select statement = .ok form)
    (expanded : expander.expandForm wanted scope pc form statement = .ok expansion)
    (last : statement.operands.getLast? = some target) (label : Operand.shape target = .label) :
    ∃ address name,
      BranchExpanded expander wanted scope pc statement expansion target name address ∧
      (scope.address? name = some address ↔ ¬ scope.Hides address name) := by
  rcases Expander.expandForm_eq_ok_iff.1 expanded with ⟨words, resolved, filled⟩
  rcases Form.statements_of_expand_eq_ok filled with ⟨recipe, found, statements⟩
  rcases Statement.getLast?_of_resolve_eq_ok resolved last with ⟨word, long, lastWord, wordOk⟩
  rcases Statement.resolveOperand_eq_ok_iff.1 wordOk with ⟨notLabel, _⟩ | ⟨address, _, defined, rfl⟩
  · exact absurd label notLabel
  rcases Option.isSome_iff_exists.1 (Scope.labelAt?_isSome_of_address?_eq_some defined) with
    ⟨symbol, atAddress⟩
  have recovered : scope.resolve (Text.ofInt address.toInt) = .ok symbol.name :=
    Scope.resolve_eq_ok_iff.2 ⟨address, symbol, Numeral.word?_ofInt_toInt address, atAddress, rfl⟩
  have labelFilled : Site.fill ⟨words, pc, scope⟩ .label = .ok symbol.name := by
    rw [Site.fill_label_of_getLast? long lastWord, recovered]
  refine ⟨address, symbol.name, ⟨defined, ?_⟩, Scope.address?_name_eq_some_iff atAddress⟩
  refine ⟨form, recipe, words, selected, found, resolved, statements, ?_⟩
  intro before after absent
  exact Template.fill_append_label absent labelFilled

open Listing (LineItem codeOf) in
/-- A recovered label has the address that it was recovered from exactly when its name is not
hidden by a nearer table, whether it is recovered from a text, for a statement or in a listing. -/
theorem recovered_label_sound_iff (expander : Expander) (wanted : Option Variant)
    (scope : Scope) :
    (∀ (text name : Text), scope.resolve text = .ok name →
      ∃ address, Numeral.word? text = some address ∧
        (scope.address? name = some address ↔ ¬ scope.Hides address name)) ∧
    (∀ (pc : Int) (line : Text) (expansion : Expansion) (statement : Statement) (target : Text),
      expander.expand wanted scope pc line = .ok expansion →
      Statement.read? line = some statement →
      statement.operands.getLast? = some target → Operand.shape target = .label →
      ∃ address name,
        BranchExpanded expander wanted scope pc statement expansion target name address ∧
        (scope.address? name = some address ↔ ¬ scope.Hides address name)) ∧
    (∀ (start : Option Int) (lines : List Text) (items : List Item),
      (Listing.ofLines expander wanted scope start lines).result = .ok items →
      ∃ (table : SymbolTable) (contributions : List (Option Item)),
        List.Forall₂ (LineItem expander wanted (table :: scope)) lines contributions ∧
        items = contributions.reduceOption ∧
        ∀ (line : Text) (item : Item) (statement : Statement) (target : Text),
          (line, some item) ∈ lines.zip contributions → item.isPseudo = true →
          Statement.read? (codeOf line) = some statement →
          statement.operands.getLast? = some target → Operand.shape target = .label →
          ∃ address name,
            BranchExpanded expander wanted (table :: scope) item.address statement item.expansion
              target name address ∧
            (Scope.address? (table :: scope) name = some address ↔
              ¬ Scope.Hides (table :: scope) address name)) := by
  refine ⟨?_, ?_, ?_⟩
  · intro text name recovered
    rcases Scope.resolve_eq_ok_iff.1 recovered with ⟨address, symbol, spelt, atAddress, rfl⟩
    exact ⟨address, spelt, Scope.address?_name_eq_some_iff atAddress⟩
  · intro pc line expansion statement target success read last label
    rcases (Expander.expand_eq_ok_iff read).1 success with ⟨form, selected, expanded⟩
    exact exists_branchExpanded selected expanded last label
  · intro start lines items success
    rcases Listing.exists_linesExpanded_of_ofLines_eq_ok success with
      ⟨table, contributions, _, linesExpanded, itemsEq⟩
    refine ⟨table, contributions, linesExpanded.lineItems, itemsEq, ?_⟩
    intro line item statement target member pseudo read last label
    have lineItem := List.forall₂_zip linesExpanded.lineItems member
    cases lineItem with
    | basic address read' refused => simp at pseudo
    | pseudo address read' selected expanded =>
        rw [read, Option.some.injEq] at read'
        subst read'
        exact exists_branchExpanded selected expanded last label

/-- Two labels outside of a listing that stand at one address. -/
def outerAliases : Scope :=
  [⟨SymbolTable.globalName, [⟨"x".toList, 100⟩, ⟨"L".toList, 100⟩], by decide⟩]

/-- A listing that defines one of the outer names again. -/
def shadowingScope : Scope :=
  ⟨Listing.tableName, [⟨"x".toList, 0x400000⟩], by decide⟩ :: outerAliases

/-- A jump to the second of the labels outside, by a line that redefines the first one. -/
def shadowedJump : Listing :=
  Listing.ofLines ⟨Table.builtin, .standard, 0x400000⟩ none outerAliases none ["x: j L".toList]

/-- The look-up by address finds a label that leads elsewhere, and the jump leads to itself. -/
theorem shadowedJump_misses_its_target :
    (shadowingScope.resolve "100".toList = .ok "x".toList ∧
      shadowingScope.address? "x".toList ≠ Numeral.word? "100".toList) ∧
    shadowedJump.result.map (List.map fun item => item.expansion.statements) =
      .ok [["jal x0, x".toList]] ∧
    shadowingScope.address? "L".toList = some 100 ∧
    shadowingScope.address? "x".toList = some 0x400000 := by
  refine ⟨⟨rfl, by decide⟩, rfl, rfl, rfl⟩

/-- The look-up, a jump and a listing at which the labels are recovered. -/
theorem recovered_label_sound_iff_shadowedJump :
    (∃ address, Numeral.word? "100".toList = some address ∧
      (shadowingScope.address? "x".toList = some address ↔
        ¬ shadowingScope.Hides address "x".toList)) ∧
    (∃ expansion address name,
      BranchExpanded ⟨Table.builtin, .standard, 0⟩ none shadowingScope 0
        ⟨"j".toList, ["L".toList]⟩ expansion "L".toList name address ∧
      (shadowingScope.address? name = some address ↔ ¬ shadowingScope.Hides address name)) ∧
    (∃ items, shadowedJump.result = .ok items ∧
      ∃ (table : SymbolTable) (item : Item) (address : Word) (name : Text),
        items = [item] ∧
        BranchExpanded ⟨Table.builtin, .standard, 0x400000⟩ none (table :: outerAliases)
          item.address ⟨"j".toList, ["L".toList]⟩ item.expansion "L".toList name address ∧
        (Scope.address? (table :: outerAliases) name = some address ↔
          ¬ Scope.Hides (table :: outerAliases) address name)) := by
  rcases recovered_label_sound_iff ⟨Table.builtin, .standard, 0⟩ none shadowingScope with
    ⟨ofText, ofStatement, _⟩
  rcases recovered_label_sound_iff ⟨Table.builtin, .standard, 0x400000⟩ none outerAliases with
    ⟨_, _, ofListing⟩
  refine ⟨ofText "100".toList "x".toList rfl, ?_, ?_⟩
  · have lines : (Expander.expand ⟨Table.builtin, .standard, 0⟩ none shadowingScope 0
        "j L".toList).map Expansion.statements = .ok ["jal x0, x".toList] := rfl
    rcases Outcome.map_eq_ok_iff.1 lines with ⟨expansion, success, _⟩
    exact ⟨expansion, ofStatement _ _ _ _ _ success rfl rfl (by decide)⟩
  · have kinds : shadowedJump.result.map (List.map Item.isPseudo) = .ok [true] := rfl
    rcases Outcome.map_eq_ok_iff.1 kinds with ⟨items, success, pseudo⟩
    rcases ofListing _ _ _ success with ⟨table, contributions, lineItems, itemsEq, each⟩
    rcases List.forall₂_cons_left_iff.1 lineItems with ⟨contribution, rest, _, restNil, rfl⟩
    rw [List.forall₂_nil_left_iff] at restNil
    subst restNil
    cases contribution with
    | none => simp [itemsEq, List.reduceOption] at pseudo
    | some item =>
        rw [List.reduceOption_singleton, Option.toList_some] at itemsEq
        rw [itemsEq, List.map_singleton, List.singleton_inj] at pseudo
        rcases each "x: j L".toList item ⟨"j".toList, ["L".toList]⟩ "L".toList (by simp) pseudo rfl
          rfl (by decide) with ⟨address, name, expanded, sound⟩
        exact ⟨items, success, table, item, address, name, itemsEq, expanded, sound⟩

end PseudoAsm
