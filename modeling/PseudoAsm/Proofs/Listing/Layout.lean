import PseudoAsm.Proofs.Listing.Lines
import PseudoAsm.Table.Builtin

/-!
# The layout of a listing

The first pass over a listing gives every line an address before any operand is known, and the
second one generates the instructions. The layout is consistent if the addresses are right for what
the second pass really generates: the first item stands at the start, each further one where the
item before it ends, and a label stands where everything that comes from the lines before it ends.
The labels of a listing are in scope of all its statements, in front of the labels from outside.
-/

namespace PseudoAsm.Listing

variable {expander : Expander} {wanted : Option Variant}

theorem head?_address_of_consecutive {address : Int} {items : List Item}
    (consecutive : Consecutive address items) {first : Item} (atHead : first ∈ items.head?) :
    first.address = address := by
  cases items with
  | nil => simp at atHead
  | cons item items =>
      simp only [List.head?_cons, Option.mem_def, Option.some.injEq] at atHead
      subst atHead
      exact consecutive.1

/-- Each item starts where the one before it ends. -/
theorem next_address_of_consecutive {address : Int} {items : List Item}
    (consecutive : Consecutive address items) {index : Nat} {item next : Item}
    (atIndex : items[index]? = some item) (atNext : items[index + 1]? = some next) :
    next.address = item.address + item.expansion.length := by
  induction items generalizing address index with
  | nil => simp at atIndex
  | cons first items ih =>
      rcases consecutive with ⟨firstAddress, later⟩
      rw [List.getElem?_cons_succ] at atNext
      cases index with
      | zero =>
          simp only [List.getElem?_cons_zero, Option.some.injEq] at atIndex
          subst atIndex
          have atHead : next ∈ items.head? := by
            rwa [Option.mem_def, List.head?_eq_getElem?]
          rw [head?_address_of_consecutive later atHead, firstAddress]
      | succ index =>
          rw [List.getElem?_cons_succ] at atIndex
          exact ih later atIndex atNext

/-- In a listing that was expanded, every item stands where the one before it ends, and every label
is found, in the one scope of all statements, at the end of the items from the lines before it. -/
theorem layout_consistent {outer : Scope} {start : Option Int} {lines : List Text}
    {items : List Item}
    (success : (ofLines expander wanted outer start lines).result = .ok items) :
    ∃ (table : SymbolTable) (contributions : List (Option Item)),
      List.Forall₂ (LineItem expander wanted (table :: outer)) lines contributions ∧
      items = contributions.reduceOption ∧
      (∀ first ∈ items.head?, first.address = start.getD expander.textBase) ∧
      (∀ (index : Nat) (item next : Item), items[index]? = some item →
        items[index + 1]? = some next → next.address = item.address + item.expansion.length) ∧
      (∀ (index : Nat) (line label : Text), lines[index]? = some line →
        label ∈ (Label.split line).1 →
        Scope.address? (table :: outer) label =
          some (Word.ofInt (start.getD expander.textBase +
            size (contributions.take index).reduceOption))) := by
  rcases exists_linesExpanded_of_ofLines_eq_ok success with
    ⟨table, contributions, labelsOk, expanded, rfl⟩
  refine ⟨table, contributions, expanded.lineItems, rfl, ?_, ?_, ?_⟩
  · intro first atHead
    exact head?_address_of_consecutive expanded.consecutive atHead
  · intro index item next atIndex atNext
    exact next_address_of_consecutive expanded.consecutive atIndex atNext
  · intro index line label atIndex defined
    exact Scope.address?_cons_of_find?_eq_some
      (find?_label_of_linesExpanded expanded labelsOk atIndex defined)

/-- A scope with a label that `forwardJump` defines, too. -/
def outerEnd : Scope :=
  [⟨SymbolTable.globalName, [⟨"end".toList, 8⟩], by decide⟩]

/-- A jump forward over a basic instruction and an address load. -/
def forwardJump : Listing :=
  ofLines ⟨Table.builtin, .standard, 0x400000⟩ none outerEnd none
    ["j end".toList, "add x1, x2, x3 # kept".toList, "a: b: la t0, b".toList, " end :".toList]

theorem layout_consistent_forwardJump :
    ∃ items, forwardJump.result = .ok items ∧ ∃ (table : SymbolTable)
      (contributions : List (Option Item)),
      items = contributions.reduceOption ∧
      items.map Item.address = [0x400000, 0x400004, 0x400008] ∧
      Scope.address? (table :: outerEnd) "b".toList =
        some (Word.ofInt (0x400000 + size (contributions.take 2).reduceOption)) ∧
      Scope.address? (table :: outerEnd) "end".toList =
        some (Word.ofInt (0x400000 + size (contributions.take 3).reduceOption)) := by
  have placed : forwardJump.result.map (List.map Item.address) =
      .ok [0x400000, 0x400004, 0x400008] := rfl
  rcases Outcome.map_eq_ok_iff.1 placed with ⟨items, success, addresses⟩
  rcases layout_consistent success with ⟨table, contributions, _, itemsEq, _, _, labels⟩
  refine ⟨items, success, table, contributions, itemsEq, addresses, ?_, ?_⟩
  · exact labels 2 "a: b: la t0, b".toList "b".toList rfl (by decide)
  · exact labels 3 " end :".toList "end".toList rfl (by decide)

end PseudoAsm.Listing
