import PseudoAsm.Proofs.Listing.LabelDefinitions
import PseudoAsm.Proofs.Listing.Lines
import PseudoAsm.Proofs.Statement.Tokens

/-!
# Lines that listings keep

A table keeps a line that defines no label, is written with single blanks and no comment, and holds
a statement that the table refuses. A listing of such lines is expanded to itself, whatever labels
are in scope and whichever variant is wanted: there is nothing to expand. What a listing keeps of a
line that it passes through is such a line again.
-/

namespace PseudoAsm

/-- A line that is expanded to itself. -/
structure Table.Keeps (table : Table) (line : Text) : Prop where
  noLabels : (Label.split line).1 = []
  source : Statement.source line = line
  refused : ∃ statement error, Statement.read? line = some statement ∧
    table.select statement = .error error

namespace Listing

variable {expander : Expander} {wanted : Option Variant} {line : Text} {lines : List Text}

/-- The words before a comment define no labels if the whole line does not. -/
theorem split_source_fst (noLabels : (Label.split line).1 = []) :
    (Label.split (Statement.source line)).1 = [] := by
  have words : Text.words (Statement.source line) = Text.words (Statement.code line) := by
    rw [Statement.source, Text.words_join_words]
  rw [Label.split_fst_eq_nil_iff_words, words, Label.startsDefinition_words_iff]
  rintro ⟨before, after, parts, isName⟩
  -- A definition before the comment would be one at the start of the whole line.
  have whole : line = before ++ ':' :: (after ++ line.dropWhile (· != '#')) := by
    calc
      line = Statement.code line ++ line.dropWhile (· != '#') :=
        List.takeWhile_append_dropWhile.symm
      _ = before ++ ':' :: (after ++ line.dropWhile (· != '#')) := by
        rw [parts, List.append_assoc, List.cons_append]
  have noName := Label.split_fst_eq_nil_iff.1 noLabels before _ whole
  exact Bool.false_ne_true (noName.symm.trans isName)

/-- A line that is passed through is kept when it is read again. -/
theorem keeps_source {table : Table} {statement : Statement} {error : ExpansionError}
    (read : Statement.read? (codeOf line) = some statement)
    (refused : table.select statement = .error error) :
    table.Keeps (Statement.source (codeOf line)) where
  noLabels := split_source_fst (Label.split_split_snd_fst line)
  source := Statement.source_source _
  refused := ⟨statement, error, (Statement.read?_source _).trans read, refused⟩

/-- The item of a line that is passed through. -/
def keptItem (address : Int) (line : Text) : Item :=
  ⟨address, line, false, ⟨[line], []⟩⟩

/-- Lines kept as they are, one instruction after the other. -/
def keptItems (start : Int) (lines : List Text) : List Item :=
  lines.mapIdx fun index line => keptItem (start + instructionLength * index) line

@[simp]
theorem keptItems_cons (start : Int) (line : Text) (lines : List Text) :
    keptItems start (line :: lines) =
      keptItem start line :: keptItems (start + instructionLength) lines := by
  have next : ∀ index : Nat, start + instructionLength * ((index + 1 : Nat) : Int) =
      start + instructionLength + instructionLength * index := by
    intro index
    simp only [instructionLength]
    omega
  simp only [keptItems, List.mapIdx_cons, next]
  simp

/-- A line that is kept has no labels and no form. -/
theorem exists_planLine_of_keeps (keeps : expander.table.Keeps line) :
    ∃ statement, planLine expander.table line = ⟨[], some ⟨line, statement, none⟩⟩ := by
  rcases keeps.refused with ⟨statement, error, read, refused⟩
  refine ⟨statement, ?_⟩
  rw [planLine, Label.split_eq_of_fst_eq_nil keeps.noLabels]
  simp only [read, refused, keeps.source, Option.map_some, Except.toOption]

theorem definitions_layout_of_keeps (keeps : ∀ line ∈ lines, expander.table.Keeps line)
    (start : Int) :
    (layout expander wanted start lines).flatMap PlacedLine.definitions = [] := by
  rw [List.flatMap_eq_nil_iff]
  intro placed member
  rcases exists_line_of_mem_layout member with ⟨line, lineMem, labels, _⟩
  rw [PlacedLine.definitions, labels, (keeps line lineMem).noLabels, List.map_nil]

/-- Lines that are kept become items of one instruction each. -/
theorem forall₂_keptItems {scope : Scope} (keeps : ∀ line ∈ lines, expander.table.Keeps line)
    (start : Int) :
    List.Forall₂
      (fun placed item => Slot.expand expander wanted scope placed.1 placed.2 = .ok item)
      ((layout expander wanted start lines).filterMap PlacedLine.placedSlot?)
      (keptItems start lines) := by
  induction lines generalizing start with
  | nil => exact .nil
  | cons line lines ih =>
      rcases exists_planLine_of_keeps (keeps line List.mem_cons_self) with ⟨statement, planned⟩
      have length : (planLine expander.table line).length expander wanted = instructionLength := by
        rw [planned]
        rfl
      rw [filterMap_placedSlot?_layout_cons, length, planned, keptItems_cons]
      exact .cons rfl (ih (fun line member => keeps line (List.mem_cons_of_mem _ member)) _)

/-- A listing of lines that are kept is expanded to these lines. -/
theorem result_ofLines_of_keeps (keeps : ∀ line ∈ lines, expander.table.Keeps line)
    (scope : Scope) (start : Option Int) :
    (ofLines expander wanted scope start lines).result =
      .ok (keptItems (start.getD expander.textBase) lines) := by
  refine ofLines_eq_ok_iff.2 ⟨SymbolTable.empty tableName, ?_, forall₂_keptItems keeps _⟩
  rw [labels, definitions_layout_of_keeps keeps]
  rfl

end Listing

end PseudoAsm
