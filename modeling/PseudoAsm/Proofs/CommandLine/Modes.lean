import PseudoAsm.Proofs.CommandLine.Requests
import PseudoAsm.Proofs.CommandLine.Runs
import PseudoAsm.Proofs.Listing.LabelDefinitions
import PseudoAsm.Proofs.Listing.Success
import PseudoAsm.Proofs.Template.Fill
import PseudoAsm.Proofs.Text.Lines

/-!
# Statements and listings

Statements may be given on the command line or on the lines of a listing. On the command line each
one is expanded where the one before it ends, in the scope of the labels of the request; the lines
of a listing are placed before any of them is expanded, behind a table with the labels of the
listing. If no line defines a label this table is empty, and a form sets aside as much as its
expansion takes, so both ways lead to the same instructions.
-/

namespace PseudoAsm

section EmptyTable

variable {expander : Expander} {wanted : Option Variant} {title : Text} {outer : Scope} {pc : Int}

@[simp]
theorem Statement.resolve_empty_cons (statement : Statement) :
    statement.resolve (.empty title :: outer) = statement.resolve outer := by
  have sameOperand : resolveOperand (.empty title :: outer) = resolveOperand outer := by
    funext operand
    simp [resolveOperand]
  simp only [resolve, sameOperand]

theorem Site.fill_empty_cons (nonempty : outer ≠ []) (words : List Text) (marker : Marker) :
    Site.fill ⟨words, pc, .empty title :: outer⟩ marker = Site.fill ⟨words, pc, outer⟩ marker := by
  cases marker with
  | operand position => rfl
  | part source half position => rfl
  | label => simp [fill, nonempty]

/-- An empty table in front of others does not matter to a form. -/
theorem Expander.expandForm_empty_cons (nonempty : outer ≠ []) (form : Form)
    (statement : Statement) :
    expander.expandForm wanted (.empty title :: outer) pc form statement =
      expander.expandForm wanted outer pc form statement := by
  have sameForm : ∀ words, form.expand (expander.variant wanted form)
      ⟨words, pc, .empty title :: outer⟩ =
        form.expand (expander.variant wanted form) ⟨words, pc, outer⟩ := by
    intro words
    have sameMarkers : ∀ marker, Site.fill ⟨words, pc, .empty title :: outer⟩ marker =
        Site.fill ⟨words, pc, outer⟩ marker := Site.fill_empty_cons nonempty words
    simp only [Form.expand, Template.fill_congr_site sameMarkers,
      Template.notes_congr_site sameMarkers]
  simp [expandForm, sameForm]

end EmptyTable

namespace Listing

variable {expander : Expander} {wanted : Option Variant} {outer : Scope} {address : Int}

/-- Lines that define no labels. -/
def Unlabelled (lines : List Text) : Prop :=
  ∀ line ∈ lines, (Label.split line).1 = []

/-- Lines without labels make an empty table. -/
theorem labels_of_unlabelled {lines : List Text} (unlabelled : Unlabelled lines) (start : Int) :
    labels (layout expander wanted start lines) = .ok (.empty tableName) := by
  have noLabels : definedLabels lines = [] := List.flatMap_eq_nil_iff.2 unlabelled
  have noDefinitions : (layout expander wanted start lines).flatMap PlacedLine.definitions = [] :=
    List.map_eq_nil_iff.1 ((map_fst_definitions_layout start lines).trans noLabels)
  rw [labels, noDefinitions]
  rfl

/-- A statement that is expanded on its own has a line of the same length, and either both are
empty or the slot of the line is expanded to the same. -/
theorem exists_expand_slot_of_expand_eq_ok {line : Text} {expansion : Expansion}
    (nonempty : outer ≠ []) (unlabelled : (Label.split line).1 = [])
    (expanded : expander.expand wanted outer address line = .ok expansion) :
    (planLine expander.table line).length expander wanted = expansion.length ∧
      (((planLine expander.table line).slot = none ∧ expansion.statements = []) ∨
        ∃ slot item, (planLine expander.table line).slot = some slot ∧
          slot.expand expander wanted (.empty tableName :: outer) address = .ok item ∧
          item.expansion = expansion) := by
  have plan : planLine expander.table line = ⟨[], (Statement.read? line).map fun statement =>
      ⟨Statement.source line, statement, (expander.table.select statement).toOption⟩⟩ := by
    rw [planLine, Label.split_eq_of_fst_eq_nil unlabelled]
  cases read : Statement.read? line with
  | none =>
      simp only [Expander.expand, read, Except.ok.injEq] at expanded
      subst expanded
      simp [plan, read, PlannedLine.length, Expansion.length]
  | some statement =>
      rcases (Expander.expand_eq_ok_iff read).1 expanded with ⟨form, selected, formExpanded⟩
      have length := Expander.length_of_expandForm_eq_ok formExpanded
      simp [plan, read, selected, PlannedLine.length, Slot.length, Slot.expand, Except.toOption,
        Expander.expandForm_empty_cons nonempty, formExpanded, length, Except.map]

/-- Statements that are expanded in turn are items of a listing. -/
theorem exists_items_of_expandedInTurn {lines : List Text} {blocks : List (Int × Expansion)}
    (nonempty : outer ≠ []) (unlabelled : Unlabelled lines)
    (expanded : CommandLine.ExpandedInTurn expander outer address lines blocks) :
    ∃ items, List.Forall₂
        (fun placed item =>
          Slot.expand expander none (.empty tableName :: outer) placed.1 placed.2 = .ok item)
        ((layout expander none address lines).filterMap PlacedLine.placedSlot?) items ∧
      CommandLine.instructions (items.map CommandLine.itemBlock) =
        CommandLine.instructions blocks := by
  rcases expanded with ⟨adjoining, each⟩
  -- The address is left open: it moves on by the length of a block, which is that of the line.
  induction each generalizing address with
  | nil => exact ⟨[], .nil, rfl⟩
  | @cons line block lines blocks lineExpanded _ ih =>
      rcases adjoining with ⟨rfl, adjoiningLater⟩
      rcases List.forall_mem_cons.1 unlabelled with ⟨noLabels, unlabelledLater⟩
      rcases ih unlabelledLater adjoiningLater with ⟨items, itemsOk, sameInstructions⟩
      rcases exists_expand_slot_of_expand_eq_ok nonempty noLabels lineExpanded with
        ⟨length, ⟨noSlot, noInstructions⟩ | ⟨slot, item, hasSlot, itemOk, sameExpansion⟩⟩
      · refine ⟨items, ?_, ?_⟩
        · simpa [filterMap_placedSlot?_layout_cons, length, noSlot] using itemsOk
        · rw [sameInstructions, CommandLine.instructions_cons, noInstructions, List.nil_append]
      · refine ⟨item :: items, ?_, ?_⟩
        · simp only [filterMap_placedSlot?_layout_cons, length, hasSlot, Option.map_some,
            Option.toList_some, List.singleton_append]
          exact .cons itemOk itemsOk
        · rw [List.map_cons, CommandLine.instructions_cons, CommandLine.instructions_cons,
            sameInstructions, CommandLine.itemBlock, sameExpansion]

/-- Lines without labels that are expanded in turn are expanded as a listing, too, and to the same
instructions. -/
theorem exists_ofLines_of_expandedInTurn {lines : List Text} {blocks : List (Int × Expansion)}
    (nonempty : outer ≠ []) (unlabelled : Unlabelled lines)
    (expanded : CommandLine.ExpandedInTurn expander outer address lines blocks) :
    ∃ items, (ofLines expander none outer (some address) lines).result = .ok items ∧
      CommandLine.instructions (items.map CommandLine.itemBlock) =
        CommandLine.instructions blocks := by
  rcases exists_items_of_expandedInTurn nonempty unlabelled expanded with
    ⟨items, itemsOk, sameInstructions⟩
  refine ⟨items, ?_, sameInstructions⟩
  exact ofLines_eq_ok_iff.2 ⟨_, labels_of_unlabelled unlabelled address, itemsOk⟩

end Listing

namespace CommandLine

variable {files : FileSystem} {environment : Environment} {expander : Expander}

/-- Statements that are expanded are expanded to the same instructions on the lines of a listing. -/
theorem Request.Expands.of_listing {request : Request} {blocks : List (Int × Expansion)}
    {path text : Text} (expands : request.Expands files expander blocks)
    (noListing : request.input = none)
    (content : files.readText (PathName.normalize path) = .ok text)
    (oneEach : Text.MadeOfLines request.statements text)
    (unlabelled : Listing.Unlabelled request.statements) (leftover : List Text) :
    ∃ others, (request.withSource leftover (some path)).Expands files expander others ∧
      instructions others = instructions blocks := by
  cases expands with
  | listing input _ _ => simp [noListing] at input
  | statements _ _ expanded =>
      have nonempty : request.scope ≠ [] := by simp [scope]
      rcases Listing.exists_ofLines_of_expandedInTurn nonempty unlabelled expanded with
        ⟨items, listed, sameInstructions⟩
      rw [← Text.lines_of_madeOfLines oneEach] at listed
      exact ⟨_, .listing rfl content listed, sameInstructions⟩

/-- With the statements on the lines of a file, a request prints the same. -/
theorem Request.Prints.of_listing {request : Request} {lines : List Text}
    {path text : Text} (prints : (request.run files environment).Prints lines)
    (noListing : request.input = none)
    (content : files.readText (PathName.normalize path) = .ok text)
    (oneEach : Text.MadeOfLines request.statements text)
    (unlabelled : Listing.Unlabelled request.statements) (leftover : List Text) :
    ((request.withSource leftover (some path)).run files environment).Prints lines := by
  rcases prints_run_iff.1 prints with ⟨expander, loads, expanderPrints⟩
  refine prints_run_iff.2 ⟨expander, loads, ?_⟩
  cases list : request.list with
  | true => simpa [runExpander, withSource, list] using expanderPrints
  | false =>
      rcases (prints_runExpander_iff list).1 expanderPrints with ⟨blocks, expands, rfl⟩
      rcases expands.of_listing noListing content oneEach unlabelled leftover with
        ⟨others, otherExpands, sameInstructions⟩
      have otherList : (request.withSource leftover (some path)).list = false := list
      refine (prints_runExpander_iff otherList).2 ⟨others, otherExpands, ?_⟩
      have sameLines : (request.withSource leftover (some path)).instructionLines =
          request.instructionLines := instructionLines_congr rfl
      rw [sameInstructions, sameLines]
      rfl

/-- Statements without label definitions that are expanded from the command line are expanded from
the lines of a file as well, and the same is printed. A statement that no form accepts would be
passed through by a listing, but it stops the run on the command line. -/
theorem listing_prints_what_statements_print {words others : List Text}
    {before after : List GivenSwitch} {statements leftover : List Text} {path text : Text}
    {bytes : List UInt8}
    (statementWords : Words.read words = .ok ⟨before ++ after, statements⟩)
    (noListing : NoListing (before ++ after))
    (listingWords : Words.read others = .ok ⟨before ++ .parameter .input path :: after, leftover⟩)
    (readable : files path = .ok bytes)
    (content : files.readText (PathName.normalize path) = .ok text)
    (oneEach : Text.MadeOfLines statements text) (unlabelled : Listing.Unlabelled statements)
    (success : (run files environment words).exitCode = 0) :
    (run files environment others).exitCode = 0 ∧
      (run files environment others).output = (run files environment words).output := by
  rcases Report.exitCode_eq_zero_iff.1 success with ⟨lines, prints⟩
  have otherPrints : (run files environment others).Prints lines := by
    rcases prints_run_iff.1 prints with ⟨sorted, command, read, asked, commandPrints⟩
    obtain rfl := Except.ok.inj (statementWords.symm.trans read)
    rcases Command.exists_ofWords_insert noListing readable asked with
      same | ⟨request, rfl, rfl, noInput, withListing⟩
    · exact prints_run_iff.2 ⟨_, command, listingWords, same, commandPrints⟩
    · have listingPrints :=
        Request.Prints.of_listing commandPrints noInput content oneEach unlabelled leftover
      exact prints_run_iff.2 ⟨_, _, listingWords, withListing, listingPrints⟩
  refine ⟨Report.exitCode_eq_zero_iff.2 ⟨lines, otherPrints⟩, ?_⟩
  rw [otherPrints.output, prints.output]

/-- Statements with a comment between them, and a label that the command line defines. -/
def counting : List Text :=
  ["li t0, 100000", "# count", "la a0, loop", "bnez t0, loop"].map String.toList

/-- A file system in which one file has these statements on its lines. -/
def countingFiles : FileSystem := fun path =>
  if path = "loop.s".toList then .ok ((Text.unlines counting).map fun c => c.toNat.toUInt8)
  else .error .missing

/-- Switches and statements that count down in a loop. -/
def countingWords : List Text :=
  ["-ca", "--pc", "16", "-Sloop=8"].map String.toList ++ counting

/-- The same switches in other spellings, with the listing in place of the statements. -/
def countingListingWords : List Text :=
  ["-c", "-ailoop.s", "--pc=16", "-S", "loop=8"].map String.toList

theorem listing_prints_what_statements_print_counting :
    (run countingFiles [] countingWords).exitCode = 0 ∧
      (run countingFiles [] countingListingWords).exitCode = 0 ∧
      (run countingFiles [] countingListingWords).output =
        (run countingFiles [] countingWords).output := by
  have statementWords : Words.read countingWords = .ok ⟨[.flag .compact, .flag .addresses] ++
      [.parameter .pc "16".toList, .parameter .symbol "loop=8".toList], counting⟩ := rfl
  have listingWords : Words.read countingListingWords = .ok ⟨[.flag .compact, .flag .addresses] ++
      .parameter .input "loop.s".toList ::
        [.parameter .pc "16".toList, .parameter .symbol "loop=8".toList], []⟩ := rfl
  have content : countingFiles.readText "loop.s".toList = .ok (Text.unlines counting) := rfl
  have oneEach : Text.MadeOfLines counting (Text.unlines counting) :=
    Text.madeOfLines_unlines (by decide)
  have unlabelled : Listing.Unlabelled counting := by
    unfold Listing.Unlabelled
    decide
  have success : (run countingFiles [] countingWords).exitCode = 0 := rfl
  refine ⟨success, ?_⟩
  exact listing_prints_what_statements_print statementWords (by simp [NoListing]) listingWords rfl
    content oneEach unlabelled success

end CommandLine

end PseudoAsm
