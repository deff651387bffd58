import PseudoAsm.Proofs.Listing.Lines

/-!
# When a listing is expanded

Whether a listing is expanded does not depend on where it stands. No label may be defined twice;
each label that an expanded statement speaks of has to be defined by the listing or outside; and the
form of the statement needs a recipe. The addresses that the first pass gives to the lines decide
what the statements are expanded to, but not that they are.
-/

namespace PseudoAsm.Listing

variable {expander : Expander} {wanted : Option Variant}

/-- The labels that lines define, in order. -/
def definedLabels (lines : List Text) : List Text :=
  lines.flatMap fun line => (Label.split line).1

/-- A line that nothing stops from being expanded where some names are known. -/
def Expandable (expander : Expander) (wanted : Option Variant) (known : List Text)
    (line : Text) : Prop :=
  ∀ statement, Statement.read? (codeOf line) = some statement →
    ∀ form, expander.table.select statement = .ok form →
    form.recipe? (expander.variant wanted form) ≠ none ∧
      ∀ operand ∈ statement.operands, Operand.shape operand = .label → operand ∈ known

theorem map_fst_definitions_layout (start : Int) (lines : List Text) :
    ((layout expander wanted start lines).flatMap PlacedLine.definitions).map Prod.fst =
      definedLabels lines := by
  induction lines generalizing start with
  | nil => rfl
  | cons line lines ih =>
      simp only [layout, definedLabels] at ih ⊢
      rw [List.map_cons, place, List.flatMap_cons, List.map_append, ih, List.flatMap_cons]
      simp [PlacedLine.definitions, planLine, Function.comp_def]

/-- The labels of a listing can be collected exactly if all of them are different. -/
theorem exists_labels_iff (start : Int) {lines : List Text} :
    (∃ table, labels (layout expander wanted start lines) = .ok table) ↔
      (definedLabels lines).Nodup := by
  rw [← map_fst_definitions_layout start lines]
  exact SymbolTable.exists_ofDefinitions_iff

theorem names_of_labels_eq_ok {start : Int} {lines : List Text} {table : SymbolTable}
    (labelsOk : labels (layout expander wanted start lines) = .ok table) :
    table.names = definedLabels lines := by
  rw [SymbolTable.names, SymbolTable.symbols_of_ofDefinitions_eq_ok labelsOk, List.map_map,
    ← map_fst_definitions_layout start lines]
  rfl

/-- A line is expanded at one address exactly if it is expandable at all. -/
theorem exists_expand_slot_iff {scope : Scope} {line : Text} (address : Int) :
    (∀ slot ∈ (planLine expander.table line).slot, ∃ item,
      slot.expand expander wanted scope address = .ok item) ↔
      Expandable expander wanted scope.names line := by
  have plan : (planLine expander.table line).slot = (Statement.read? (codeOf line)).map
      fun statement => ⟨Statement.source (codeOf line), statement,
        (expander.table.select statement).toOption⟩ := rfl
  rw [plan, Expandable]
  cases Statement.read? (codeOf line) with
  | none => simp
  | some statement =>
      simp only [Option.map_some, Option.mem_def, Option.some.injEq, forall_eq']
      cases expander.table.select statement with
      | error error => simp [Slot.expand, Except.toOption]
      | ok form =>
          have expands : (∃ expansion,
              expander.expandForm wanted scope address form statement = .ok expansion) ↔ _ :=
            Expander.exists_expandForm_iff
          simp only [Slot.expand, Except.toOption, Outcome.map_eq_ok_iff, Except.ok.injEq,
            forall_eq', ← expands]
          rw [exists_comm]
          simp

/-- All lines can be expanded exactly if each of them can. -/
theorem exists_slots_expanded_iff {scope : Scope} {start : Int} {lines : List Text} :
    (∃ items, List.Forall₂
      (fun placed item => Slot.expand expander wanted scope placed.1 placed.2 = .ok item)
      ((layout expander wanted start lines).filterMap PlacedLine.placedSlot?) items) ↔
      ∀ line ∈ lines, Expandable expander wanted scope.names line := by
  rw [exists_forall₂_iff]
  induction lines generalizing start with
  | nil => simp [layout, place]
  | cons line lines ih =>
      rw [filterMap_placedSlot?_layout_cons]
      simp only [List.mem_append, or_imp, forall_and, List.forall_mem_cons, ih]
      rw [← exists_expand_slot_iff start]
      simp

/-- More labels do no harm. -/
theorem Expandable.mono {known others : List Text} {line : Text}
    (expandable : Expandable expander wanted known line)
    (inOthers : ∀ name ∈ known, name ∈ others) : Expandable expander wanted others line := by
  intro statement read form selected
  rcases expandable statement read form selected with ⟨recipe, labels⟩
  exact ⟨recipe, fun operand member label => inOthers operand (labels operand member label)⟩

/-- A listing is expanded exactly if its labels are distinct and each line is expandable where these
labels and those from outside are known. -/
theorem exists_ofLines_iff {outer : Scope} {start : Option Int} {lines : List Text} :
    (∃ items, (ofLines expander wanted outer start lines).result = .ok items) ↔
      (definedLabels lines).Nodup ∧
        ∀ line ∈ lines, Expandable expander wanted (definedLabels lines ++ outer.names) line := by
  have known : ∀ {table : SymbolTable}, table.names = definedLabels lines →
      ∀ name, name ∈ Scope.names (table :: outer) ↔ name ∈ definedLabels lines ++ outer.names := by
    intro table names name
    rw [Scope.mem_names_cons_iff, names, List.mem_append]
  have distinct : (∃ table,
      labels (layout expander wanted (start.getD expander.textBase) lines) = .ok table) ↔
        (definedLabels lines).Nodup :=
    exists_labels_iff _
  simp only [ofLines_eq_ok_iff]
  -- What is known depends on the table of the listing only through its names.
  constructor
  · rintro ⟨items, table, labelsOk, each⟩
    refine ⟨distinct.1 ⟨table, labelsOk⟩, ?_⟩
    intro line member
    exact (exists_slots_expanded_iff.1 ⟨items, each⟩ line member).mono
      fun name => (known (names_of_labels_eq_ok labelsOk) name).1
  · rintro ⟨nodup, expandable⟩
    rcases distinct.2 nodup with ⟨table, labelsOk⟩
    have inScope : ∀ line ∈ lines,
        Expandable expander wanted (Scope.names (table :: outer)) line := by
      intro line member
      exact (expandable line member).mono
        fun name => (known (names_of_labels_eq_ok labelsOk) name).2
    rcases exists_slots_expanded_iff.2 inScope with ⟨items, each⟩
    exact ⟨items, table, labelsOk, each⟩

end PseudoAsm.Listing
