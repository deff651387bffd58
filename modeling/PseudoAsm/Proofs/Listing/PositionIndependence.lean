import PseudoAsm.Proofs.Displacement
import PseudoAsm.Proofs.Listing.Lines
import PseudoAsm.Proofs.Table.Builtin

/-!
# Listings may be placed anywhere

A listing that names its targets by labels of its own can be expanded from any start address, and
gives the same instructions: all its labels move with the program counter, and the instructions hold
names of labels and distances to them, but no addresses. The distance between the two places is any
integer, so labels may come to lie on the other side of the middle or of the end of the address
space.

The first pass places the lines and defines the labels at the distance, the second one expands each
statement at two sites at this distance. Only success is followed from one place to the other; the
way back is the same with the opposite distance.
-/

namespace PseudoAsm

namespace PlacedLine

/-- The line, as far away from its place as given. -/
def moveBy (displacement : Int) (line : PlacedLine) : PlacedLine :=
  ⟨line.address + displacement, line.labels, line.slot⟩

end PlacedLine

/-- An item is the same as another one, a displacement farther on. -/
structure Item.MovedBy (displacement : Int) (item moved : Item) : Prop where
  address : moved.address = item.address + displacement
  source : moved.source = item.source
  isPseudo : moved.isPseudo = item.isPseudo
  statements : moved.expansion.statements = item.expansion.statements

namespace Listing

open Table (builtin builtinForms)

/-- Whether a line has a label wherever the form of its statement has one. -/
def NamesTargets (table : Table) (line : Text) : Prop :=
  ∀ statement ∈ Statement.read? (codeOf line), ∀ form ∈ (table.select statement).toOption,
    ∀ place ∈ form.operands.zip statement.operands,
      Operand.shape place.1 = .label → Operand.shape place.2 = .label

instance (table : Table) (line : Text) : Decidable (NamesTargets table line) := by
  unfold NamesTargets
  infer_instance

variable {expander : Expander} {wanted : Option Variant} {scope : Scope}

theorem place_add (start displacement : Int) (lines : List PlannedLine) :
    place expander wanted (start + displacement) lines =
      (place expander wanted start lines).map (PlacedLine.moveBy displacement) := by
  induction lines generalizing start with
  | nil => rfl
  | cons line lines ih =>
      have next : start + displacement + line.length expander wanted =
          start + line.length expander wanted + displacement := by omega
      rw [place, place, List.map_cons, next, ih]
      rfl

/-- A layout that starts elsewhere is the moved layout. -/
theorem layout_add (start displacement : Int) (lines : List Text) :
    layout expander wanted (start + displacement) lines =
      (layout expander wanted start lines).map (PlacedLine.moveBy displacement) :=
  place_add start displacement _

/-- The labels of moved lines are the moved labels. -/
theorem labels_moveBy {placed : List PlacedLine} {table : SymbolTable} {displacement : Int}
    (success : labels placed = .ok table) :
    labels (placed.map (PlacedLine.moveBy displacement)) =
      .ok (table.moveBy (Word.ofInt displacement)) := by
  have moved := SymbolTable.ofDefinitions_moveBy displacement success
  rw [List.map_flatMap] at moved
  rw [labels, List.flatMap_map]
  simpa only [PlacedLine.definitions, PlacedLine.moveBy, List.map_map, Function.comp_def]
    using moved

theorem filterMap_placedSlot?_moveBy (placed : List PlacedLine) (displacement : Int) :
    (placed.map (PlacedLine.moveBy displacement)).filterMap PlacedLine.placedSlot? =
      (placed.filterMap PlacedLine.placedSlot?).map fun (address, slot) =>
        (address + displacement, slot) := by
  rw [List.filterMap_map, List.map_filterMap]
  apply List.filterMap_congr
  intro line _
  simp [PlacedLine.placedSlot?, PlacedLine.moveBy, Function.comp_def]

/-- A label is replaced by its moved address, and everything else stays. -/
theorem exists_resolveOperand_moveBy {distance : Word} {sample operand word : Text}
    (accepted : Operand.accepts sample operand = true)
    (namesTarget : Operand.shape sample = .label → Operand.shape operand = .label)
    (resolved : Statement.resolveOperand scope operand = .ok word) :
    ∃ moved, Statement.resolveOperand (scope.moveBy distance) operand = .ok moved ∧
      MovedWord distance (Operand.shape sample) word moved := by
  by_cases label : Operand.shape operand = .label
  · rw [Operand.shape_eq_label_of_accepts accepted label]
    rcases Statement.resolveOperand_eq_ok_iff.1 resolved with
      ⟨notLabel, _⟩ | ⟨address, _, found, rfl⟩
    · exact absurd label notLabel
    have movedFound : (scope.moveBy distance).address? operand = some (address + distance) := by
      rw [Scope.address?_moveBy, found, Option.map_some]
    exact ⟨_, Statement.resolveOperand_eq_ok_iff.2 (.inr ⟨_, label, movedFound, rfl⟩),
      .label (Numeral.word?_ofInt_toInt address) (Numeral.word?_ofInt_toInt _)⟩
  · have stays : MovedWord distance (Operand.shape sample) word word :=
      movedWord_self accepted resolved fun sampleLabel => absurd (namesTarget sampleLabel) label
    rw [Statement.resolveOperand_of_ne_label label, Except.ok.injEq] at resolved
    subst resolved
    exact ⟨operand, Statement.resolveOperand_of_ne_label label, stays⟩

theorem variant_eq_standard (standard : wanted.getD expander.preferred = .standard) (form : Form) :
    expander.variant wanted form = .standard := by
  rw [Expander.variant, standard]

/-- A statement that names its targets is expanded to the same lines at the other place. -/
theorem exists_expand_moveBy (table : expander.table = builtin)
    (standard : wanted.getD expander.preferred = .standard) {line : Text} {slot : Slot}
    (planned : (planLine expander.table line).slot = some slot)
    (namesTargets : NamesTargets builtin line) {address : Int} (displacement : Int) {item : Item}
    (success : slot.expand expander wanted scope address = .ok item) :
    ∃ moved, slot.expand expander wanted (scope.moveBy (Word.ofInt displacement))
        (address + displacement) = .ok moved ∧ item.MovedBy displacement moved := by
  simp only [planLine, Option.map_eq_some_iff] at planned
  rcases planned with ⟨statement, read, rfl⟩
  cases selected : expander.table.select statement with
  | error error =>
      simp only [Slot.expand, selected, Except.toOption, Except.ok.injEq] at success ⊢
      subst success
      exact ⟨_, rfl, rfl, rfl, rfl, rfl⟩
  | ok form =>
      simp only [Slot.expand, selected, Except.toOption, Outcome.map_eq_ok_iff] at success ⊢
      rcases success with ⟨expansion, expanded, rfl⟩
      rw [table] at selected
      have names := namesTargets statement read form (by rw [selected]; rfl)
      rcases Table.mem_formsOf_and_accepts_of_select_eq_ok selected with ⟨ofMnemonic, accepts⟩
      have member := (Table.mem_formsOf_builtin_iff.1 ofMnemonic).1
      have accepted := List.forall₂_iff_zip.1 (Form.accepts_iff_forall₂.1 accepts)
      have acceptedNamed : List.Forall₂ (fun sample operand =>
          Operand.accepts sample operand = true ∧
            (Operand.shape sample = .label → Operand.shape operand = .label))
          form.operands statement.operands :=
        List.forall₂_iff_zip.2
          ⟨accepted.1, fun inPlace => ⟨accepted.2 inPlace, names _ inPlace⟩⟩
      -- Parts of absolute addresses occur in compact recipes only, and these are not in use.
      have relative : ∀ marker ∈ form.markers (expander.variant wanted form),
          marker.isAbsolute = true → Word.ofInt displacement = 0 := by
        intro marker inRecipe absolute
        rw [variant_eq_standard standard] at inRecipe
        exact absurd absolute ((Table.markers_fit_builtinForms form member).1 marker inRecipe).2
      have expandsMoved : ∃ moved, expander.expandForm wanted
          (scope.moveBy (Word.ofInt displacement)) (address + displacement) form statement =
            .ok moved ∧ moved.statements = expansion.statements := by
        refine exists_expandForm_apart (R := Eq) member (Word.ofInt_add address displacement) ?_
          relative ?_ acceptedNamed (List.forall₂_refl _) expanded
        · intro place
          rw [Scope.labelAt?_moveBy, Option.map_map]
          rfl
        · rintro sample operand _ word ⟨accepts, namesTarget⟩ rfl resolved
          exact exists_resolveOperand_moveBy accepts namesTarget resolved
      rcases expandsMoved with ⟨moved, movedOk, statements⟩
      exact ⟨_, ⟨moved, movedOk, rfl⟩, rfl, rfl, rfl, statements⟩

/-- A listing that is expanded at one place is expanded at any other, to moved items. -/
theorem exists_ofLines_moveBy (table : expander.table = builtin)
    (standard : wanted.getD expander.preferred = .standard) {outer : Scope}
    (noLabels : ∀ table ∈ outer, table.symbols = []) {lines : List Text}
    (namesTargets : ∀ line ∈ lines, NamesTargets builtin line) {start : Int} (displacement : Int)
    {items : List Item}
    (success : (ofLines expander wanted outer (some start) lines).result = .ok items) :
    ∃ moved, (ofLines expander wanted outer (some (start + displacement)) lines).result =
        .ok moved ∧ List.Forall₂ (Item.MovedBy displacement) items moved := by
  rcases ofLines_eq_ok_iff.1 success with ⟨defined, labelsOk, each⟩
  rw [Option.getD_some] at labelsOk each
  have scopeMoved : defined.moveBy (Word.ofInt displacement) :: outer =
      Scope.moveBy (Word.ofInt displacement) (defined :: outer) := by
    rw [Scope.moveBy, List.map_cons, ← Scope.moveBy, Scope.moveBy_eq_self noLabels]
  have step : ∀ placed ∈ (layout expander wanted start lines).filterMap PlacedLine.placedSlot?,
      ∀ item, Slot.expand expander wanted (defined :: outer) placed.1 placed.2 = .ok item →
      ∃ moved, Slot.expand expander wanted (defined.moveBy (Word.ofInt displacement) :: outer)
        (placed.1 + displacement) placed.2 = .ok moved ∧ item.MovedBy displacement moved := by
    intro placed member item expanded
    rcases List.mem_filterMap.1 member with ⟨placedLine, inLayout, placedSlot⟩
    rcases exists_line_of_mem_layout inLayout with ⟨line, lineMem, _, slot⟩
    rcases Option.map_eq_some_iff.1 placedSlot with ⟨placedLineSlot, planned, rfl⟩
    rw [slot] at planned
    rw [scopeMoved]
    exact exists_expand_moveBy table standard planned (namesTargets line lineMem) displacement
      expanded
  rcases exists_forall₂_map (fun placed : Int × Slot => (placed.1 + displacement, placed.2))
    (Q := fun placed item => Slot.expand expander wanted
      (defined.moveBy (Word.ofInt displacement) :: outer) placed.1 placed.2 = .ok item)
    step each with ⟨moved, movedEach, same⟩
  refine ⟨moved, ofLines_eq_ok_iff.2 ⟨defined.moveBy (Word.ofInt displacement), ?_, ?_⟩, same⟩
  · rw [Option.getD_some, layout_add]
    exact labels_moveBy labelsOk
  · rw [Option.getD_some, layout_add, filterMap_placedSlot?_moveBy]
    exact movedEach

/-- A listing that names its targets is expanded from every start address or from none, and to the
same statements at addresses that differ as the start addresses do. -/
theorem expansion_position_independent (table : expander.table = builtin)
    (standard : wanted.getD expander.preferred = .standard) {outer : Scope}
    (noLabels : ∀ table ∈ outer, table.symbols = []) {lines : List Text}
    (namesTargets : ∀ line ∈ lines, NamesTargets builtin line) (start displacement : Int) :
    ((∃ items, (ofLines expander wanted outer (some start) lines).result = .ok items) ↔
      ∃ moved, (ofLines expander wanted outer (some (start + displacement)) lines).result =
        .ok moved) ∧
    ∀ items moved, (ofLines expander wanted outer (some start) lines).result = .ok items →
      (ofLines expander wanted outer (some (start + displacement)) lines).result = .ok moved →
      List.Forall₂ (Item.MovedBy displacement) items moved := by
  refine ⟨⟨?_, ?_⟩, ?_⟩
  · rintro ⟨items, success⟩
    rcases exists_ofLines_moveBy table standard noLabels namesTargets displacement success with
      ⟨moved, movedOk, _⟩
    exact ⟨moved, movedOk⟩
  · rintro ⟨moved, success⟩
    rcases exists_ofLines_moveBy table standard noLabels namesTargets (-displacement) success with
      ⟨items, itemsOk, _⟩
    rw [Int.add_neg_cancel_right] at itemsOk
    exact ⟨items, itemsOk⟩
  · intro items moved success movedSuccess
    rcases exists_ofLines_moveBy table standard noLabels namesTargets displacement success with
      ⟨other, otherOk, same⟩
    rw [movedSuccess, Except.ok.injEq] at otherOk
    rwa [otherOk]

/-- A subroutine that stores its return address in a frame behind it and calls itself. -/
def recursion : List Text :=
  ["again: beqz a0, done".toList, "sw ra, frame, t0".toList, "addi a0, a0, -1 # kept".toList,
    "li t1, 0x12345".toList, "call again".toList, "done: ret".toList, "frame:".toList]

/-- At first the labels are around the middle of the address space, then they are around its end. -/
theorem expansion_position_independent_recursion :
    ∃ items moved,
      (ofLines ⟨builtin, .standard, 0⟩ none [] (some 0x7ffffff8) recursion).result = .ok items ∧
      (ofLines ⟨builtin, .standard, 0⟩ none [] (some (0x7ffffff8 + 0x7ffffffc)) recursion).result =
        .ok moved ∧
      items.map Item.address =
        [0x7ffffff8, 0x7ffffffc, 0x80000004, 0x80000008, 0x80000010, 0x80000018] ∧
      List.Forall₂ (Item.MovedBy 0x7ffffffc) items moved := by
  have placed : (ofLines ⟨builtin, .standard, 0⟩ none [] (some 0x7ffffff8) recursion).result.map
      (List.map Item.address) =
      .ok [0x7ffffff8, 0x7ffffffc, 0x80000004, 0x80000008, 0x80000010, 0x80000018] := rfl
  rcases Outcome.map_eq_ok_iff.1 placed with ⟨items, success, addresses⟩
  have namesTargets : ∀ line ∈ recursion, NamesTargets builtin line := by decide +kernel
  have noLabels : ∀ table ∈ ([] : Scope), table.symbols = [] := by simp
  have table : (Expander.mk builtin .standard 0).table = builtin := rfl
  have standard : (none : Option Variant).getD (Expander.mk builtin .standard 0).preferred =
      .standard := rfl
  rcases expansion_position_independent table standard noLabels namesTargets 0x7ffffff8
    0x7ffffffc with ⟨succeeds, same⟩
  rcases succeeds.1 ⟨items, success⟩ with ⟨moved, movedSuccess⟩
  exact ⟨items, moved, success, movedSuccess, addresses, same items moved success movedSuccess⟩

end Listing

end PseudoAsm
