import Mathlib.Data.List.ReduceOption
import PseudoAsm.Listing.Basic
import PseudoAsm.Proofs.Expansion
import PseudoAsm.Proofs.Symbol.Definitions

/-!
# What becomes of the lines of a listing

A listing that is expanded has one table of labels, and all of its statements are expanded in the
scope of this table and the outer ones. Line by line, a line without a statement gives nothing, a
statement that no form accepts gives itself, and any other statement gives its expansion at its
address. `LineItem` states this without the two passes, and
`exists_linesExpanded_of_ofLines_eq_ok` shows that the passes comply with it.

The bytes that the first pass sets aside for a line are those that the second one generates, so the
address of each line is the start address and the sizes of all items before it. The induction is on
the lines, with the address of the first of them left open.
-/

namespace PseudoAsm.Listing

/-- The bytes of the instructions of some items. -/
def size : List Item → Nat
  | [] => 0
  | item :: items => item.expansion.length + size items

/-- A line without its labels. -/
def codeOf (line : Text) : Text :=
  (Label.split line).2

/-- What may become of a line, in the scope in which the statements of its listing are expanded. -/
inductive LineItem (expander : Expander) (wanted : Option Variant) (scope : Scope) (line : Text) :
    Option Item → Prop where
  | blank (unread : Statement.read? (codeOf line) = none) : LineItem expander wanted scope line none
  | basic {statement : Statement} {error : ExpansionError} (address : Int)
      (read : Statement.read? (codeOf line) = some statement)
      (refused : expander.table.select statement = .error error) :
      LineItem expander wanted scope line
        (some ⟨address, Statement.source (codeOf line), false,
          ⟨[Statement.source (codeOf line)], []⟩⟩)
  | pseudo {statement : Statement} {form : Form} {expansion : Expansion} (address : Int)
      (read : Statement.read? (codeOf line) = some statement)
      (selected : expander.table.select statement = .ok form)
      (expanded : expander.expandForm wanted scope address form statement = .ok expansion) :
      LineItem expander wanted scope line
        (some ⟨address, Statement.source (codeOf line), true, expansion⟩)

/-- Items that follow each other without gaps, from an address on. -/
def Consecutive (address : Int) : List Item → Prop
  | [] => True
  | item :: items => item.address = address ∧ Consecutive (address + item.expansion.length) items

variable {expander : Expander} {wanted : Option Variant} {scope : Scope}

@[simp]
theorem size_nil : size [] = 0 := rfl

@[simp]
theorem size_cons (item : Item) (items : List Item) :
    size (item :: items) = item.expansion.length + size items := rfl

/-- What a statement is expanded to takes the bytes that were set aside for it. -/
theorem lineItem_of_slot {line : Text} {slot : Slot} {address : Int} {item : Item}
    (planned : (planLine expander.table line).slot = some slot)
    (expanded : slot.expand expander wanted scope address = .ok item) :
    LineItem expander wanted scope line (some item) ∧ item.address = address ∧
      item.expansion.length = slot.length expander wanted := by
  simp only [planLine, Option.map_eq_some_iff] at planned
  rcases planned with ⟨statement, read, rfl⟩
  cases selected : expander.table.select statement with
  | error error =>
      simp only [Slot.expand, selected, Except.toOption, Except.ok.injEq] at expanded
      subst expanded
      refine ⟨.basic address read selected, rfl, ?_⟩
      simp [Slot.length, Except.toOption, Expansion.length]
  | ok form =>
      simp only [Slot.expand, selected, Except.toOption, Outcome.map_eq_ok_iff] at expanded
      rcases expanded with ⟨expansion, success, rfl⟩
      refine ⟨.pseudo address read selected success, rfl, ?_⟩
      simpa [Slot.length, Except.toOption] using Expander.length_of_expandForm_eq_ok success

/-- The lines of a listing that was expanded, and the label definitions between them. -/
structure LinesExpanded (expander : Expander) (wanted : Option Variant) (scope : Scope)
    (start : Int) (lines : List Text) (contributions : List (Option Item)) : Prop where
  lineItems : List.Forall₂ (LineItem expander wanted scope) lines contributions
  consecutive : Consecutive start contributions.reduceOption
  placed : ∀ index line, lines[index]? = some line →
    ∃ placed ∈ layout expander wanted start lines, placed.labels = (Label.split line).1 ∧
      placed.address = start + size (contributions.take index).reduceOption

theorem LinesExpanded.cons {line : Text} {lines : List Text} {start : Int}
    {contribution : Option Item} {contributions : List (Option Item)}
    (lineItem : LineItem expander wanted scope line contribution)
    (atStart : ∀ item ∈ contribution, item.address = start)
    (length : (planLine expander.table line).length expander wanted =
      size contribution.toList)
    (later : LinesExpanded expander wanted scope (start + size contribution.toList) lines
      contributions) :
    LinesExpanded expander wanted scope start (line :: lines) (contribution :: contributions) := by
  refine ⟨List.Forall₂.cons lineItem later.lineItems, ?_, ?_⟩
  · cases contribution with
    | none => simpa [List.reduceOption] using later.consecutive
    | some item =>
        rw [List.reduceOption_cons_of_some]
        refine ⟨atStart item rfl, ?_⟩
        simpa using later.consecutive
  · intro index definingLine atIndex
    simp only [layout, List.map_cons, place, length, List.mem_cons]
    cases index with
    | zero =>
        simp only [List.getElem?_cons_zero, Option.some.injEq] at atIndex
        subst atIndex
        exact ⟨_, Or.inl rfl, rfl, by simp⟩
    | succ index =>
        rcases later.placed index definingLine (by simpa using atIndex) with
          ⟨placed, placedMem, labels, address⟩
        refine ⟨placed, Or.inr placedMem, labels, ?_⟩
        rw [address, List.take_succ_cons]
        cases contribution with
        | none => simp [List.reduceOption]
        | some item =>
            simp only [List.reduceOption_cons_of_some, size_cons, Option.toList_some, size_nil]
            omega

theorem filterMap_placedSlot?_layout_cons (line : Text) (lines : List Text) (start : Int) :
    (layout expander wanted start (line :: lines)).filterMap PlacedLine.placedSlot? =
      ((planLine expander.table line).slot.map (start, ·)).toList ++
        (layout expander wanted (start + (planLine expander.table line).length expander wanted)
          lines).filterMap PlacedLine.placedSlot? := by
  simp only [layout, List.map_cons, place, List.filterMap_cons, PlacedLine.placedSlot?]
  cases (planLine expander.table line).slot with
  | none => rfl
  | some slot => rfl

/-- What the passes over a listing do, they do line by line. -/
theorem exists_linesExpanded {lines : List Text} {start : Int} {items : List Item}
    (expanded : List.Forall₂
      (fun placed item => Slot.expand expander wanted scope placed.1 placed.2 = .ok item)
      ((layout expander wanted start lines).filterMap PlacedLine.placedSlot?) items) :
    ∃ contributions, LinesExpanded expander wanted scope start lines contributions ∧
      items = contributions.reduceOption := by
  induction lines generalizing start items with
  | nil =>
      simp only [layout, List.map_nil, place, List.filterMap_nil, List.forall₂_nil_left_iff]
        at expanded
      subst expanded
      exact ⟨[], ⟨.nil, trivial, by simp⟩, rfl⟩
  | cons line lines ih =>
      rw [filterMap_placedSlot?_layout_cons] at expanded
      cases planned : (planLine expander.table line).slot with
      | none =>
          have length : (planLine expander.table line).length expander wanted = 0 := by
            simp [PlannedLine.length, planned]
          simp only [length, planned, Option.map_none, Option.toList_none, List.nil_append]
            at expanded
          rcases ih expanded with ⟨contributions, later, rfl⟩
          have unread : Statement.read? (codeOf line) = none := by
            simpa [planLine, codeOf] using planned
          exact ⟨none :: contributions, .cons (.blank unread) (by simp) (by simpa using length)
            (by simpa using later), rfl⟩
      | some slot =>
          have length : (planLine expander.table line).length expander wanted =
              slot.length expander wanted := by
            simp [PlannedLine.length, planned]
          simp only [planned, Option.map_some, Option.toList_some, List.singleton_append,
            List.forall₂_cons_left_iff] at expanded
          rcases expanded with ⟨item, laterItems, itemOk, laterOk, rfl⟩
          rcases lineItem_of_slot planned itemOk with ⟨lineItem, address, itemLength⟩
          rw [length, ← itemLength] at laterOk
          rcases ih laterOk with ⟨contributions, later, rfl⟩
          refine ⟨some item :: contributions, .cons lineItem (by simpa using address)
            (by simpa [itemLength] using length) (by simpa using later), ?_⟩
          rw [List.reduceOption_cons_of_some]

/-- A listing is expanded when its labels can be defined and each of its statements is expanded in
the scope of all of them. -/
theorem ofLines_eq_ok_iff {outer : Scope} {start : Option Int} {lines : List Text}
    {items : List Item} :
    (ofLines expander wanted outer start lines).result = .ok items ↔
      ∃ table, labels (layout expander wanted (start.getD expander.textBase) lines) = .ok table ∧
        List.Forall₂
          (fun placed item =>
            Slot.expand expander wanted (table :: outer) placed.1 placed.2 = .ok item)
          ((layout expander wanted (start.getD expander.textBase) lines).filterMap
            PlacedLine.placedSlot?) items := by
  simp only [ofLines]
  cases labelsOk : labels (layout expander wanted (start.getD expander.textBase) lines) with
  | error error => simp
  | ok table => simp [expandAll, Outcome.mapM_eq_ok_iff]

/-- What a listing that was expanded consists of. -/
theorem exists_linesExpanded_of_ofLines_eq_ok {outer : Scope} {start : Option Int}
    {lines : List Text} {items : List Item}
    (success : (ofLines expander wanted outer start lines).result = .ok items) :
    ∃ table contributions,
      labels (layout expander wanted (start.getD expander.textBase) lines) = .ok table ∧
        LinesExpanded expander wanted (table :: outer) (start.getD expander.textBase) lines
          contributions ∧
        items = contributions.reduceOption := by
  rcases ofLines_eq_ok_iff.1 success with ⟨table, labelsOk, each⟩
  rcases exists_linesExpanded each with ⟨contributions, expanded, itemsEq⟩
  exact ⟨table, contributions, labelsOk, expanded, itemsEq⟩

theorem exists_line_of_mem_layout {start : Int} {lines : List Text} {placed : PlacedLine}
    (member : placed ∈ layout expander wanted start lines) :
    ∃ line ∈ lines, placed.labels = (Label.split line).1 ∧
      placed.slot = (planLine expander.table line).slot := by
  induction lines generalizing start with
  | nil => cases member
  | cons line lines ih =>
      simp only [layout, List.map_cons, place, List.mem_cons] at member
      rcases member with rfl | later
      · exact ⟨line, List.mem_cons_self, rfl, rfl⟩
      · rcases ih later with ⟨other, otherMem, labels, slot⟩
        exact ⟨other, List.mem_cons_of_mem _ otherMem, labels, slot⟩

/-- A label of the listing is found at the address of the line that defines it. -/
theorem find?_label_of_linesExpanded {scope : Scope} {start : Int} {lines : List Text}
    {contributions : List (Option Item)} {table : SymbolTable}
    (expanded : LinesExpanded expander wanted scope start lines contributions)
    (labelsOk : labels (layout expander wanted start lines) = .ok table)
    {index : Nat} {line label : Text} (atIndex : lines[index]? = some line)
    (defined : label ∈ (Label.split line).1) :
    table.find? label =
      some ⟨label, Word.ofInt (start + size (contributions.take index).reduceOption)⟩ := by
  rcases expanded.placed index line atIndex with ⟨placed, placedMem, placedLabels, address⟩
  rw [← address]
  apply SymbolTable.find?_of_mem_definitions labelsOk
  apply List.mem_flatMap.2
  refine ⟨placed, placedMem, ?_⟩
  apply List.mem_map.2
  exact ⟨label, by rwa [placedLabels], rfl⟩

end PseudoAsm.Listing
