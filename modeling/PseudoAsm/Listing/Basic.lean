import PseudoAsm.Expander
import PseudoAsm.Listing.Labels
import PseudoAsm.Progress

/-!
# Listings

A listing is a list of lines with label definitions and statements. A statement that no form
accepts is a basic instruction, and is passed through as it stands.

The length of an expansion is known before its operands are, so a listing is expanded in two
passes. The first one chooses the form of each statement and gives each line its address, which is
the sum of the lengths before it; the labels of the line get this address. The second one expands
the statements with all these labels in scope, in front of the labels from outside. Hence labels
may be used before they are defined.
-/

namespace PseudoAsm

/-- A statement of a listing, with the form that was selected for it; a basic instruction has
none. -/
structure Slot where
  source : Text
  statement : Statement
  form : Option Form

/-- A line of a listing: the labels it defines and its statement, if it has one. -/
structure PlannedLine where
  labels : List Text
  slot : Option Slot

/-- A line of a listing at its address. -/
structure PlacedLine where
  address : Int
  labels : List Text
  slot : Option Slot

/-- A statement of a listing, at its address, with what it was expanded to. -/
structure Item where
  address : Int
  source : Text
  isPseudo : Bool
  expansion : Expansion

/-- An expanded listing, or why there is none, and what was noted on the way. -/
structure Listing where
  notes : List Note
  result : Except ExpansionError (List Item)

namespace Slot

/-- The bytes of the expansion of a statement. -/
def length (expander : Expander) (wanted : Option Variant) (slot : Slot) : Nat :=
  match slot.form with
  | none => instructionLength
  | some form => form.length (expander.variant wanted form)

/-- What is worth noting when the form of a statement is looked for. -/
def notes (slot : Slot) : List Note :=
  if slot.form.isNone then [.passedThrough slot.statement.words] else []

/-- A statement at its address, expanded with the given labels in scope. -/
def expand (expander : Expander) (wanted : Option Variant) (scope : Scope) (address : Int)
    (slot : Slot) : Except ExpansionError Item :=
  match slot.form with
  | none => .ok ⟨address, slot.source, false, ⟨[slot.source], []⟩⟩
  | some form =>
    (expander.expandForm wanted scope address form slot.statement).map
      (⟨address, slot.source, true, ·⟩)

end Slot

namespace PlannedLine

/-- The bytes that a line takes. -/
def length (expander : Expander) (wanted : Option Variant) (line : PlannedLine) : Nat :=
  match line.slot with
  | none => 0
  | some slot => slot.length expander wanted

end PlannedLine

namespace PlacedLine

/-- The labels of a line, each at the address of the line. -/
def definitions (line : PlacedLine) : List (Text × Int) :=
  line.labels.map (·, line.address)

/-- The statement of a line with its address. -/
def placedSlot? (line : PlacedLine) : Option (Int × Slot) :=
  line.slot.map (line.address, ·)

/-- What is worth noting about a line. -/
def notes (line : PlacedLine) : List Note :=
  match line.slot with
  | none => []
  | some slot => slot.notes

end PlacedLine

namespace Listing

/-- The name of the table with the labels of a listing. -/
def tableName : Text := "<listing>".toList

/-- A line with the form of its statement. -/
def planLine (table : Table) (line : Text) : PlannedLine :=
  let (labels, code) := Label.split line
  let slot := (Statement.read? code).map fun statement =>
    ⟨Statement.source code, statement, (table.select statement).toOption⟩
  ⟨labels, slot⟩

/-- Gives lines their addresses, from the address of the first of them on. -/
def place (expander : Expander) (wanted : Option Variant) (address : Int) :
    List PlannedLine → List PlacedLine
  | [] => []
  | line :: lines =>
    ⟨address, line.labels, line.slot⟩ ::
      place expander wanted (address + line.length expander wanted) lines

/-- The first pass over a listing. -/
def layout (expander : Expander) (wanted : Option Variant) (start : Int) (lines : List Text) :
    List PlacedLine :=
  place expander wanted start (lines.map (planLine expander.table))

/-- The labels of all lines in one table. -/
def labels (placed : List PlacedLine) : Except ExpansionError SymbolTable :=
  SymbolTable.ofDefinitions tableName (placed.flatMap PlacedLine.definitions)

/-- The lines before the first one that defines a label again, after some labels were seen. -/
def beforeRedefinition (seen : List Text) : List PlacedLine → List PlacedLine
  | [] => []
  | line :: lines =>
    let all := seen ++ line.labels
    if all.Nodup then line :: beforeRedefinition all lines else []

/-- The second pass over a listing, as far as it goes. -/
def expandAll (expander : Expander) (wanted : Option Variant) (scope : Scope)
    (placed : List PlacedLine) : Progress ExpansionError Item :=
  Progress.run (fun (address, slot) => slot.expand expander wanted scope address)
    (placed.filterMap PlacedLine.placedSlot?)

/-- Expands the lines of a listing from a start address on, or from the address where statements
start. -/
def ofLines (expander : Expander) (wanted : Option Variant) (scope : Scope) (start : Option Int)
    (lines : List Text) : Listing :=
  let placed := layout expander wanted (start.getD expander.textBase) lines
  match labels placed with
  | .error error => ⟨(beforeRedefinition [] placed).flatMap PlacedLine.notes, .error error⟩
  | .ok table =>
    let progress := expandAll expander wanted (table :: scope) placed
    ⟨placed.flatMap PlacedLine.notes ++ progress.done.flatMap (·.expansion.notes),
      progress.result⟩

end Listing

end PseudoAsm
