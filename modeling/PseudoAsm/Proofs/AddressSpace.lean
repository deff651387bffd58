import PseudoAsm.Proofs.Listing.PositionIndependence
import PseudoAsm.Proofs.Template.Fill
import PseudoAsm.Proofs.Word.Address

/-!
# Whole turns around the address space

Addresses are integers of any size, but only the words that they stand for count. A whole turn is a
multiple of `2 ^ 32`: added to the program counter, or to the address of a label when this is
defined, it changes neither what a statement or a listing is expanded to nor the error that stops
the expansion. The items of a listing keep their integers, so they move with its start.

The labels are the same from the outset, since a definition makes a word of its address. The program
counter goes into a site as it is, and what fills the markers looks at its word only.
-/

namespace PseudoAsm

/-- A definition with some whole turns added to its address. -/
def IsTurned (definition turned : Text × Int) : Prop :=
  turned.1 = definition.1 ∧ ∃ turns : Int, turned.2 = definition.2 + 2 ^ 32 * turns

/-- A table with some whole turns added to each of its definitions. -/
def IsTurnedTable (table turned : Text × List (Text × Int)) : Prop :=
  turned.1 = table.1 ∧ List.Forall₂ IsTurned table.2 turned.2

/-- The chain of tables that are made of names and definitions, the innermost first. -/
def Scope.ofDefinitions (tables : List (Text × List (Text × Int))) :
    Except ExpansionError Scope :=
  tables.mapM fun (name, definitions) => SymbolTable.ofDefinitions name definitions

namespace SymbolTable

/-- Whole turns of the address space do not move a label. -/
theorem define_add_turns (table : SymbolTable) (name : Text) (address turns : Int) :
    table.define name (address + 2 ^ 32 * turns) = table.define name address := by
  unfold define
  simp only [Word.ofInt_add_turns]

theorem ofDefinitions_of_isTurned {name : Text} {definitions turned : List (Text × Int)}
    (isTurned : List.Forall₂ IsTurned definitions turned) :
    ofDefinitions name turned = ofDefinitions name definitions := by
  unfold ofDefinitions
  generalize empty name = table
  induction isTurned generalizing table with
  | nil => rfl
  | @cons definition other definitions turned first _ ih =>
      rcases definition with ⟨label, address⟩
      rcases other with ⟨otherLabel, otherAddress⟩
      simp only [IsTurned] at first
      rcases first with ⟨rfl, turns, rfl⟩
      simp only [List.foldlM_cons, define_add_turns, ih]

end SymbolTable

theorem Scope.ofDefinitions_of_isTurnedTable {tables turned : List (Text × List (Text × Int))}
    (isTurned : List.Forall₂ IsTurnedTable tables turned) :
    Scope.ofDefinitions turned = Scope.ofDefinitions tables := by
  unfold Scope.ofDefinitions
  induction isTurned with
  | nil => rfl
  | @cons table other tables turned first _ ih =>
      rcases table with ⟨name, definitions⟩
      rcases other with ⟨otherName, otherDefinitions⟩
      simp only [IsTurnedTable] at first
      rcases first with ⟨rfl, sameDefinitions⟩
      simp only [List.mapM_cons, SymbolTable.ofDefinitions_of_isTurned sameDefinitions, ih]

/-- Whole turns of the program counter do not change the distance to a target. -/
theorem Split.relative_add_turns (target : Word) (pc turns : Int) :
    Split.relative target (pc + 2 ^ 32 * turns) = Split.relative target pc := by
  simp only [relative, Word.ofInt_add_turns]

theorem Site.fill_add_turns (words : List Text) (pc turns : Int) (scope : Scope)
    (marker : Marker) :
    Site.fill ⟨words, pc + 2 ^ 32 * turns, scope⟩ marker = Site.fill ⟨words, pc, scope⟩ marker := by
  cases marker with
  | operand position => rfl
  | label => rfl
  | part source half position =>
      cases source <;> simp only [fill, Source.split, Split.relative_add_turns]

namespace Expander

variable {expander : Expander} {wanted : Option Variant} {scope : Scope}

theorem related_expandForm_add_turns (pc turns : Int) (form : Form) (statement : Statement) :
    Outcome.Related (fun expansion turned => turned.statements = expansion.statements)
      (expander.expandForm wanted scope pc form statement)
      (expander.expandForm wanted scope (pc + 2 ^ 32 * turns) form statement) := by
  unfold expandForm
  apply Outcome.related_bind (Outcome.related_self (statement.resolve scope))
  rintro words _ rfl
  unfold Form.expand
  cases form.recipe? (expander.variant wanted form) with
  | none => exact .error _
  | some recipe =>
      apply Outcome.Related.ok
      rw [Template.fill_congr_site (Site.fill_add_turns words pc turns scope)]

/-- A statement is expanded alike, or fails alike. -/
theorem related_expand_add_turns (pc turns : Int) (line : Text) :
    Outcome.Related (fun expansion turned => turned.statements = expansion.statements)
      (expander.expand wanted scope pc line)
      (expander.expand wanted scope (pc + 2 ^ 32 * turns) line) := by
  unfold expand
  cases Statement.read? line with
  | none => exact .ok rfl
  | some statement =>
      apply Outcome.related_bind (Outcome.related_self (expander.table.select statement))
      rintro form _ rfl
      exact related_expandForm_add_turns pc turns form statement

end Expander

namespace Listing

variable {expander : Expander} {wanted : Option Variant} {scope : Scope}

theorem related_expand_slot_add_turns (address turns : Int) (slot : Slot) :
    Outcome.Related (Item.MovedBy (2 ^ 32 * turns)) (slot.expand expander wanted scope address)
      (slot.expand expander wanted scope (address + 2 ^ 32 * turns)) := by
  unfold Slot.expand
  cases slot.form with
  | none => exact .ok ⟨rfl, rfl, rfl, rfl⟩
  | some form =>
      apply Outcome.related_map
        (Expander.related_expandForm_add_turns address turns form slot.statement)
      intro expansion turned sameStatements
      exact ⟨rfl, rfl, rfl, sameStatements⟩

theorem labels_add_turns (placed : List PlacedLine) (turns : Int) :
    labels (placed.map (PlacedLine.moveBy (2 ^ 32 * turns))) = labels placed := by
  apply SymbolTable.ofDefinitions_of_isTurned
  induction placed with
  | nil => exact .nil
  | cons line placed ih =>
      simp only [List.map_cons, List.flatMap_cons]
      refine List.rel_append ?_ ih
      simp only [PlacedLine.definitions, PlacedLine.moveBy, List.forall₂_map_left_iff,
        List.forall₂_map_right_iff]
      exact List.forall₂_same.2 fun label _ => ⟨rfl, turns, rfl⟩

theorem related_expandAll_add_turns (placed : List PlacedLine) (turns : Int) :
    Outcome.Related (List.Forall₂ (Item.MovedBy (2 ^ 32 * turns)))
      (expandAll expander wanted scope placed).result
      (expandAll expander wanted scope
        (placed.map (PlacedLine.moveBy (2 ^ 32 * turns)))).result := by
  simp only [expandAll, Progress.result_run, filterMap_placedSlot?_moveBy]
  apply Outcome.related_mapM
  rw [List.forall₂_map_right_iff]
  exact List.forall₂_same.2 fun placed _ => related_expand_slot_add_turns placed.1 turns placed.2

/-- The items of a listing are the same but for their addresses. -/
theorem related_ofLines_add_turns {start movedStart : Option Int} {turns : Int}
    (moves : movedStart.getD expander.textBase = start.getD expander.textBase + 2 ^ 32 * turns)
    (lines : List Text) :
    Outcome.Related (List.Forall₂ (Item.MovedBy (2 ^ 32 * turns)))
      (ofLines expander wanted scope start lines).result
      (ofLines expander wanted scope movedStart lines).result := by
  simp only [ofLines, moves, layout_add, labels_add_turns]
  cases labels (layout expander wanted (start.getD expander.textBase) lines) with
  | error error => exact .error error
  | ok table => exact related_expandAll_add_turns _ turns

end Listing

/-- Whole turns added to the program counter and to the addresses of labels change nothing but the
addresses of the items of a listing. -/
theorem expansion_ignores_turns (expander : Expander) (wanted : Option Variant)
    {tables turned : List (Text × List (Text × Int))}
    (isTurned : List.Forall₂ IsTurnedTable tables turned) :
    (∀ (pc turns : Int) (line : Text),
      Outcome.Related (fun expansion other => other.statements = expansion.statements)
        (Scope.ofDefinitions tables >>= fun scope => expander.expand wanted scope pc line)
        (Scope.ofDefinitions turned >>= fun scope =>
          expander.expand wanted scope (pc + 2 ^ 32 * turns) line)) ∧
    ∀ (start movedStart : Option Int) (turns : Int) (lines : List Text),
      movedStart.getD expander.textBase = start.getD expander.textBase + 2 ^ 32 * turns →
      Outcome.Related (List.Forall₂ (Item.MovedBy (2 ^ 32 * turns)))
        (Scope.ofDefinitions tables >>= fun scope =>
          (Listing.ofLines expander wanted scope start lines).result)
        (Scope.ofDefinitions turned >>= fun scope =>
          (Listing.ofLines expander wanted scope movedStart lines).result) := by
  rw [Scope.ofDefinitions_of_isTurnedTable isTurned]
  constructor
  · intro pc turns line
    apply Outcome.related_bind (Outcome.related_self (Scope.ofDefinitions tables))
    rintro scope _ rfl
    exact Expander.related_expand_add_turns pc turns line
  · intro start movedStart turns lines moves
    apply Outcome.related_bind (Outcome.related_self (Scope.ofDefinitions tables))
    rintro scope _ rfl
    exact Listing.related_ofLines_add_turns moves lines

/-- The labels of two nested tables. -/
def nestedLabels : List (Text × List (Text × Int)) :=
  [("inner".toList, [("buffer".toList, -8), ("end".toList, 0x400000)]),
    ("outer".toList, [("buffer".toList, 0x10010000)])]

/-- The same labels after several turns. -/
def turnedLabels : List (Text × List (Text × Int)) :=
  [("inner".toList, [("buffer".toList, 0xfffffff8), ("end".toList, -0x1ffc00000)]),
    ("outer".toList, [("buffer".toList, 0x10010000)])]

theorem expansion_ignores_turns_nestedLabels :
    List.Forall₂ IsTurnedTable nestedLabels turnedLabels ∧
      Outcome.Related (fun expansion other => other.statements = expansion.statements)
        (Scope.ofDefinitions nestedLabels >>= fun scope =>
          Expander.expand ⟨Table.builtin, .standard, 0⟩ none scope 0x400000 "la a0, buffer".toList)
        (Scope.ofDefinitions turnedLabels >>= fun scope =>
          Expander.expand ⟨Table.builtin, .standard, 0⟩ none scope (0x400000 + 2 ^ 32 * -3)
            "la a0, buffer".toList) ∧
      Outcome.Related (List.Forall₂ (Item.MovedBy (2 ^ 32 * 2)))
        (Scope.ofDefinitions nestedLabels >>= fun scope =>
          (Listing.ofLines ⟨Table.builtin, .standard, -4⟩ none scope none
            ["nop".toList, "end: j end".toList]).result)
        (Scope.ofDefinitions turnedLabels >>= fun scope =>
          (Listing.ofLines ⟨Table.builtin, .standard, -4⟩ none scope (some 0x1fffffffc)
            ["nop".toList, "end: j end".toList]).result) := by
  have inner : List.Forall₂ IsTurned
      [("buffer".toList, -8), ("end".toList, 0x400000)]
      [("buffer".toList, 0xfffffff8), ("end".toList, -0x1ffc00000)] :=
    .cons ⟨rfl, 1, by decide⟩ (.cons ⟨rfl, -2, by decide⟩ .nil)
  have isTurned : List.Forall₂ IsTurnedTable nestedLabels turnedLabels :=
    .cons ⟨rfl, inner⟩ (.cons ⟨rfl, .cons ⟨rfl, 0, by decide⟩ .nil⟩ .nil)
  refine ⟨isTurned, ?_, ?_⟩
  · exact (expansion_ignores_turns ⟨Table.builtin, .standard, 0⟩ none isTurned).1 0x400000 (-3)
      "la a0, buffer".toList
  · exact (expansion_ignores_turns ⟨Table.builtin, .standard, -4⟩ none isTurned).2 none
      (some 0x1fffffffc) 2 _ rfl

end PseudoAsm
