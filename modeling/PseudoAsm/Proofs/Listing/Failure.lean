import PseudoAsm.Proofs.Listing.Success
import PseudoAsm.Proofs.Word.Address
import PseudoAsm.Table.Builtin

/-!
# Why a listing is not expanded

A listing that cannot be expanded has one error, and which one it is follows from the two passes.
The first pass goes through all lines and looks at nothing but their labels, so a label that is
defined again comes before any other error, wherever that stands. The second pass goes through the
statements that have a form. It stops at the first of them with a fault: a label among the operands
that neither the listing nor the outside defines, or else a recipe that the form does not have. A
statement without a form has no fault, for it is taken for a basic instruction.
-/

namespace PseudoAsm

/-- Why a statement is not expanded by its form where some labels are known: the first label among
its operands that is none of them, or, if there is none, the recipe that the form lacks. -/
inductive StatementFault (expander : Expander) (wanted : Option Variant) (known : List Text)
    (form : Form) (statement : Statement) : ExpansionError → Prop
  | unknownLabel {before after : List Text} {operand : Text}
      (operands : statement.operands = before ++ operand :: after)
      (earlierKnown : ∀ other ∈ before, Operand.shape other = .label → other ∈ known)
      (label : Operand.shape operand = .label) (unknown : operand ∉ known) :
      StatementFault expander wanted known form statement
        (.undefinedSymbol operand (Text.suggestions operand known))
  | noRecipe
      (labelsKnown : ∀ operand ∈ statement.operands, Operand.shape operand = .label →
        operand ∈ known)
      (absent : form.recipe? (expander.variant wanted form) = none) :
      StatementFault expander wanted known form statement
        (.noRecipe form.mnemonic (expander.variant wanted form))

theorem Expander.expandForm_eq_error_iff_fault {expander : Expander} {wanted : Option Variant}
    {scope : Scope} {pc : Int} {form : Form} {statement : Statement} {error : ExpansionError} :
    expander.expandForm wanted scope pc form statement = .error error ↔
      StatementFault expander wanted scope.names form statement error := by
  rw [expandForm_eq_error_iff]
  constructor
  · rintro (unresolved | ⟨words, resolved, notExpanded⟩)
    · rcases Statement.resolve_eq_error_iff.1 unresolved with
        ⟨before, operand, after, operands, earlier, label, unknown, rfl⟩
      exact .unknownLabel operands earlier label unknown
    · rcases Form.expand_eq_error_iff.1 notExpanded with ⟨absent, rfl⟩
      exact .noRecipe (Statement.exists_resolve_iff.1 ⟨words, resolved⟩) absent
  · intro fault
    cases fault with
    | unknownLabel operands earlier label unknown =>
        left
        apply Statement.resolve_eq_error_iff.2
        exact ⟨_, _, _, operands, earlier, label, unknown, rfl⟩
    | noRecipe labelsKnown absent =>
        right
        rcases Statement.exists_resolve_iff.2 labelsKnown with ⟨words, resolved⟩
        exact ⟨words, resolved, Form.expand_eq_error_iff.2 ⟨absent, rfl⟩⟩

namespace Listing

variable {expander : Expander} {wanted : Option Variant} {known : List Text} {lines : List Text}
  {line : Text} {error : ExpansionError}

/-- Why the statement of a line is not expanded, if a form was selected for it. -/
def LineFault (expander : Expander) (wanted : Option Variant) (known : List Text) (line : Text)
    (error : ExpansionError) : Prop :=
  ∃ statement form, Statement.read? (codeOf line) = some statement ∧
    expander.table.select statement = .ok form ∧
    StatementFault expander wanted known form statement error

/-- The fault of the first line that has one. -/
def FirstFault (expander : Expander) (wanted : Option Variant) (known : List Text)
    (lines : List Text) (error : ExpansionError) : Prop :=
  ∃ before line after, lines = before ++ line :: after ∧
    (∀ other ∈ before, ∀ otherError, ¬ LineFault expander wanted known other otherError) ∧
    LineFault expander wanted known line error

@[simp]
theorem not_firstFault_nil : ¬ FirstFault expander wanted known [] error := by
  rintro ⟨before, line, after, parts, _⟩
  simp at parts

/-- The first line is at fault, or it is not and a later one is. -/
theorem firstFault_cons_iff :
    FirstFault expander wanted known (line :: lines) error ↔
      LineFault expander wanted known line error ∨
        (∀ other, ¬ LineFault expander wanted known line other) ∧
          FirstFault expander wanted known lines error := by
  constructor
  · rintro ⟨before, faulty, after, parts, earlier, fault⟩
    cases before with
    | nil =>
        cases parts
        exact .inl fault
    | cons head before =>
        cases parts
        refine .inr ⟨earlier line List.mem_cons_self, before, faulty, after, rfl, ?_, fault⟩
        intro other member
        exact earlier other (List.mem_cons_of_mem _ member)
  · rintro (fault | ⟨sound, before, faulty, after, rfl, earlier, fault⟩)
    · exact ⟨[], line, lines, rfl, by simp, fault⟩
    · refine ⟨line :: before, faulty, after, rfl, ?_, fault⟩
      intro other member
      rcases List.mem_cons.1 member with rfl | later
      · exact sound
      · exact earlier other later

/-- The second pass stops at a line exactly because of its fault, wherever the line stands. -/
theorem slot_expand_eq_error_iff {scope : Scope} {slot : Slot} {address : Int}
    (planned : (planLine expander.table line).slot = some slot) :
    slot.expand expander wanted scope address = .error error ↔
      LineFault expander wanted scope.names line error := by
  simp only [planLine, Option.map_eq_some_iff] at planned
  rcases planned with ⟨statement, read, rfl⟩
  have readCode : Statement.read? (codeOf line) = some statement := read
  cases selected : expander.table.select statement with
  | error refusal => simp [Slot.expand, LineFault, readCode, selected, Except.toOption]
  | ok form =>
      simp [Slot.expand, LineFault, readCode, selected, Except.toOption,
        Outcome.map_eq_error_iff, Expander.expandForm_eq_error_iff_fault]

theorem not_lineFault_of_slot_eq_none (planned : (planLine expander.table line).slot = none) :
    ¬ LineFault expander wanted known line error := by
  rintro ⟨statement, form, read, _⟩
  have unread : Statement.read? (codeOf line) = none := by
    simpa [planLine, codeOf] using planned
  rw [read] at unread
  cases unread

/-- A line is expanded, wherever it stands, exactly if it has no fault. -/
theorem exists_slot_expand_eq_ok_iff {scope : Scope} {slot : Slot} {address : Int}
    (planned : (planLine expander.table line).slot = some slot) :
    (∃ item, slot.expand expander wanted scope address = .ok item) ↔
      ∀ other, ¬ LineFault expander wanted scope.names line other := by
  have stops : ∀ other, slot.expand expander wanted scope address = .error other ↔
      LineFault expander wanted scope.names line other :=
    fun other => slot_expand_eq_error_iff planned
  simp only [← stops]
  cases slot.expand expander wanted scope address with
  | error other => simp
  | ok item => simp

/-- The second pass over the lines stops at the first fault, wherever the first line stands. -/
theorem mapM_slots_eq_error_iff {scope : Scope} {start : Int} :
    ((layout expander wanted start lines).filterMap PlacedLine.placedSlot?).mapM
        (fun placed => Slot.expand expander wanted scope placed.1 placed.2) = .error error ↔
      FirstFault expander wanted scope.names lines error := by
  induction lines generalizing start with
  | nil => simp [layout, place, pure, Except.pure]
  | cons line lines ih =>
      rw [filterMap_placedSlot?_layout_cons, firstFault_cons_iff]
      cases planned : (planLine expander.table line).slot with
      | none =>
          simp [ih, not_lineFault_of_slot_eq_none planned]
      | some slot =>
          simp only [Option.map_some, Option.toList_some, List.singleton_append,
            Outcome.mapM_cons_eq_error_iff, ih, slot_expand_eq_error_iff planned,
            exists_and_right, exists_slot_expand_eq_ok_iff planned]

theorem forall_not_firstFault_iff :
    (∀ error, ¬ FirstFault expander wanted known lines error) ↔
      ∀ line ∈ lines, ∀ error, ¬ LineFault expander wanted known line error := by
  induction lines with
  | nil => simp
  | cons line lines ih =>
      simp only [firstFault_cons_iff, not_or, not_and, forall_and, List.forall_mem_cons, ← ih]
      constructor
      · rintro ⟨sound, later⟩
        exact ⟨sound, fun error => later error sound⟩
      · rintro ⟨sound, later⟩
        exact ⟨sound, fun error _ => later error⟩

/-- The first name that stands in a list for the second time. -/
def FirstRepeated (labels : List Text) (name : Text) : Prop :=
  ∃ before after, labels = before ++ name :: after ∧ before.Nodup ∧ name ∈ before

/-- The bytes that the first pass sets aside for lines. -/
def reserved (expander : Expander) (wanted : Option Variant) (lines : List Text) : Nat :=
  (lines.map fun line => (planLine expander.table line).length expander wanted).sum

/-- Whether a name is defined at an address by the first of the lines that define it at all. -/
def FirstDefinedAt (expander : Expander) (wanted : Option Variant) (start : Int)
    (lines : List Text) (name : Text) (address : Int) : Prop :=
  ∃ before line after, lines = before ++ line :: after ∧ name ∉ definedLabels before ∧
    name ∈ (Label.split line).1 ∧ address = start + reserved expander wanted before

/-- The labels that the statements of a listing may speak of, its own ones first. -/
def knownLabels (outer : Scope) (lines : List Text) : List Text :=
  definedLabels lines ++ outer.names.filter (!(definedLabels lines).contains ·)

theorem firstDefinedAt_of_find? {start address : Int} {name : Text}
    (found : ((layout expander wanted start lines).flatMap PlacedLine.definitions).find?
      (·.1 == name) = some (name, address)) :
    FirstDefinedAt expander wanted start lines name address := by
  induction lines generalizing start with
  | nil => simp [layout, place] at found
  | cons line lines ih =>
      have definitions : ((Label.split line).1.map (·, start)).find? (·.1 == name) =
          ((Label.split line).1.find? (· == name)).map (·, start) := List.find?_map ..
      simp only [layout, List.map_cons, place, List.flatMap_cons, List.find?_append,
        PlacedLine.definitions] at found
      change Option.or (((Label.split line).1.map (·, start)).find? (·.1 == name)) _ = _ at found
      rw [definitions] at found
      cases inLine : (Label.split line).1.find? (· == name) with
      | some label =>
          have sameName : label = name := by simpa using List.find?_some inLine
          have defines := List.mem_of_find?_eq_some inLine
          rw [sameName] at defines
          simp only [inLine, Option.map_some, Option.some_or, Option.some.injEq,
            Prod.mk.injEq] at found
          refine ⟨[], line, lines, rfl, by simp [definedLabels], defines, ?_⟩
          simp [reserved, found.2]
      | none =>
          have absent : name ∉ (Label.split line).1 := by
            intro defines
            simpa using List.find?_eq_none.1 inLine name defines
          rw [inLine, Option.map_none, Option.none_or] at found
          rcases ih found with ⟨before, defining, after, rfl, undefined, defines, rfl⟩
          refine ⟨line :: before, defining, after, rfl, ?_, defines, ?_⟩
          · simpa [definedLabels, absent] using undefined
          · simp only [reserved, List.map_cons, List.sum_cons]
            omega

/-- The first pass fails at the first label that is defined again, and reports where the label was
defined before. -/
theorem exists_of_labels_eq_error {start : Int}
    (failed : labels (layout expander wanted start lines) = .error error) :
    ∃ name address, FirstRepeated (definedLabels lines) name ∧
      FirstDefinedAt expander wanted start lines name address ∧
      error = .duplicateSymbol name (some (Word.ofInt address)) := by
  rcases SymbolTable.exists_of_ofDefinitions_eq_error failed with
    ⟨before, name, again, after, address, parts, nodup, member, rfl⟩
  have inBefore : before.find? (·.1 == name) = some (name, address) :=
    find?_eq_some_of_mem_of_nodup nodup member
  refine ⟨name, address, ?_, ?_, rfl⟩
  · refine ⟨before.map Prod.fst, after.map Prod.fst, ?_, nodup, List.mem_map_of_mem member⟩
    rw [← map_fst_definitions_layout start lines, parts]
    simp
  · apply firstDefinedAt_of_find?
    rw [parts, List.find?_append, inBefore, Option.some_or]

variable {outer : Scope} {start : Option Int}

/-- Labels come first: a listing fails on them, or on its lines. -/
theorem ofLines_eq_error_iff :
    (ofLines expander wanted outer start lines).result = .error error ↔
      labels (layout expander wanted (start.getD expander.textBase) lines) = .error error ∨
        ∃ table, labels (layout expander wanted (start.getD expander.textBase) lines) =
            .ok table ∧
          FirstFault expander wanted (knownLabels outer lines) lines error := by
  simp only [ofLines]
  cases labelsOk : labels (layout expander wanted (start.getD expander.textBase) lines) with
  | error other => simp
  | ok table =>
      have known : Scope.names (table :: outer) = knownLabels outer lines := by
        simp [Scope.names, knownLabels, names_of_labels_eq_ok labelsOk]
      rw [← known]
      simp only [expandAll, Progress.result_run, reduceCtorEq, Except.ok.injEq, exists_eq_left',
        false_or]
      exact mapM_slots_eq_error_iff

/-- The errors that a listing may have at all. -/
theorem kind_of_ofLines_eq_error
    (failed : (ofLines expander wanted outer start lines).result = .error error) :
    (∃ name address, error = .duplicateSymbol name address) ∨
      (∃ name similar, error = .undefinedSymbol name similar) ∨
      ∃ mnemonic variant, error = .noRecipe mnemonic variant := by
  rcases ofLines_eq_error_iff.1 failed with repeated | ⟨_, _, firstFault⟩
  · rcases exists_of_labels_eq_error repeated with ⟨name, address, _, _, rfl⟩
    exact .inl ⟨_, _, rfl⟩
  · rcases firstFault with ⟨_, _, _, _, _, _, _, _, _, fault⟩
    cases fault with
    | unknownLabel => exact .inr (.inl ⟨_, _, rfl⟩)
    | noRecipe => exact .inr (.inr ⟨_, _, rfl⟩)

/-- Where all labels are different, a listing fails at the first line with a fault. -/
theorem ofLines_eq_error_iff_firstFault (nodup : (definedLabels lines).Nodup) :
    (ofLines expander wanted outer start lines).result = .error error ↔
      FirstFault expander wanted (knownLabels outer lines) lines error := by
  have placed : ∃ table,
      labels (layout expander wanted (start.getD expander.textBase) lines) = .ok table :=
    (exists_labels_iff _).2 nodup
  rcases placed with ⟨table, labelsOk⟩
  simp [ofLines_eq_error_iff, labelsOk]

/-- The hint shows the address of the first definition. -/
theorem hint_duplicateSymbol {name digits : Text} {address : Word}
    (shown : address.address = "0x".toList ++ digits) :
    (ExpansionError.duplicateSymbol name (some address)).diagnostic.hint =
      some (Text.inApostrophes name ++ " is already defined at 0x".toList ++ digits) := by
  change some (Text.inApostrophes name ++ " is already defined at ".toList ++ address.address) = _
  rw [shown, List.append_assoc, List.append_assoc]
  rfl

/-- Which error a listing has: that of the first label defined again, if there is one, and otherwise
that of the first statement with a fault, if there is one. -/
theorem expansion_fails_at_first_fault (expander : Expander) (wanted : Option Variant)
    (outer : Scope) (start : Option Int) (lines : List Text) :
    (¬ (definedLabels lines).Nodup → ∃ name address digits,
      FirstRepeated (definedLabels lines) name ∧
      FirstDefinedAt expander wanted (start.getD expander.textBase) lines name address ∧
      Word.Shows digits address ∧
      (ofLines expander wanted outer start lines).result =
        .error (.duplicateSymbol name (some (Word.ofInt address))) ∧
      (ExpansionError.duplicateSymbol name (some (Word.ofInt address))).diagnostic.hint =
        some (Text.inApostrophes name ++ " is already defined at 0x".toList ++ digits)) ∧
    ((definedLabels lines).Nodup →
      (∀ error, (ofLines expander wanted outer start lines).result = .error error ↔
        FirstFault expander wanted (knownLabels outer lines) lines error) ∧
      ((∃ items, (ofLines expander wanted outer start lines).result = .ok items) ↔
        ∀ line ∈ lines, ∀ error,
          ¬ LineFault expander wanted (knownLabels outer lines) line error)) ∧
    (∀ mnemonic similar, (ofLines expander wanted outer start lines).result ≠
      .error (.unknownMnemonic mnemonic similar)) ∧
    ∀ mnemonic operands usages, (ofLines expander wanted outer start lines).result ≠
      .error (.operandMismatch mnemonic operands usages) := by
  refine ⟨?_, ?_, ?_, ?_⟩
  · intro repeated
    cases labelsOk : labels (layout expander wanted (start.getD expander.textBase) lines) with
    | ok table => exact absurd ((exists_labels_iff _).1 ⟨table, labelsOk⟩) repeated
    | error error =>
        rcases exists_of_labels_eq_error labelsOk with ⟨name, address, first, defined, rfl⟩
        rcases Word.exists_shows address with ⟨digits, shown, shows⟩
        refine ⟨name, address, digits, first, defined, shows,
          ofLines_eq_error_iff.2 (.inl labelsOk), hint_duplicateSymbol shown⟩
  · intro nodup
    have fails : ∀ error, (ofLines expander wanted outer start lines).result = .error error ↔
        FirstFault expander wanted (knownLabels outer lines) lines error :=
      fun error => ofLines_eq_error_iff_firstFault nodup
    refine ⟨fails, ?_⟩
    rw [← forall_not_firstFault_iff]
    simp only [← fails]
    cases (ofLines expander wanted outer start lines).result with
    | error error => simp
    | ok items => simp
  · intro mnemonic similar failed
    rcases kind_of_ofLines_eq_error failed with ⟨_, _, other⟩ | ⟨_, _, other⟩ | ⟨_, _, other⟩
    all_goals cases other
  · intro mnemonic operands usages failed
    rcases kind_of_ofLines_eq_error failed with ⟨_, _, other⟩ | ⟨_, _, other⟩ | ⟨_, _, other⟩
    all_goals cases other

/-- A listing with an unknown label, and with one that is defined twice at the end of the address
space. -/
def redefinition : List Text :=
  ["j nowhere".toList, "a: mv t0".toList, "b: la t0, b".toList, "c: a: nop".toList]

theorem expansion_fails_at_first_fault_redefinition :
    ¬ (definedLabels redefinition).Nodup ∧ ∃ address digits,
      FirstDefinedAt ⟨Table.builtin, .standard, 0xfffffffc⟩ none 0xfffffffc redefinition "a".toList
        address ∧
      Word.Shows digits address ∧
      (ofLines ⟨Table.builtin, .standard, 0xfffffffc⟩ none [] none redefinition).result =
        .error (.duplicateSymbol "a".toList (some 0)) ∧
      (ExpansionError.duplicateSymbol "a".toList (some 0)).diagnostic.hint =
        some ("'a' is already defined at 0x".toList ++ digits) := by
  have repeated : ¬ (definedLabels redefinition).Nodup := by decide
  have result : (ofLines ⟨Table.builtin, .standard, 0xfffffffc⟩ none [] none redefinition).result =
      .error (.duplicateSymbol "a".toList (some 0)) := rfl
  rcases (expansion_fails_at_first_fault ⟨Table.builtin, .standard, 0xfffffffc⟩ none [] none
    redefinition).1 repeated with ⟨name, address, digits, _, defined, shows, failed, hint⟩
  rw [result, Except.error.injEq, ExpansionError.duplicateSymbol.injEq, Option.some.injEq] at failed
  rcases failed with ⟨rfl, word⟩
  rw [← word] at hint
  exact ⟨repeated, address, digits, defined, shows, result, hint⟩

end Listing

end PseudoAsm
