import PseudoAsm.CommandLine.Run
import PseudoAsm.Proofs.Listing.Lines

/-!
# What a run prints

Only a run without a failure has the exit code zero. If such a run expands anything, it expands
blocks: one for each statement of the command line, or one for each item of a listing. A block is an
expansion with the address at which it stands, and each block starts where the one before it ends.
So the instructions of all blocks are printed as if they were one.
-/

namespace PseudoAsm.CommandLine

namespace Report

variable {report : Report} {remarks lines : List Text}

/-- A report without a failure, with lines for the stream for results. -/
def Prints (report : Report) (lines : List Text) : Prop :=
  report.failure = none ∧ report.results = lines

/-- A run exits with 0 exactly if nothing failed. -/
theorem exitCode_eq_zero_iff : report.exitCode = 0 ↔ ∃ lines, report.Prints lines := by
  have positive : ∀ kind : FailureKind, 0 < kind.exitCode := by
    intro kind
    cases kind <;> decide
  simp only [Prints, exists_and_left, exists_eq', and_true]
  unfold exitCode
  cases report.failure with
  | none => simp
  | some failure => simpa using Nat.ne_of_gt (positive failure.kind)

theorem Prints.output (prints : report.Prints lines) :
    report.output = Text.unlines (lines.map Text.plain) := by
  rw [Report.output, prints.2]

@[simp]
theorem not_prints_ofFailure (failure : Failure) : ¬ (ofFailure failure).Prints lines := by
  simp [Prints, ofFailure]

@[simp]
theorem prints_addRemarks_iff : (report.addRemarks remarks).Prints lines ↔ report.Prints lines :=
  Iff.rfl

end Report

/-- Blocks of which each starts where the one before it ends. -/
def Adjoining (address : Int) : List (Int × Expansion) → Prop
  | [] => True
  | block :: blocks => block.1 = address ∧ Adjoining (address + block.2.length) blocks

/-- Statements that are expanded one after another, each where the one before it ends. -/
structure ExpandedInTurn (expander : Expander) (scope : Scope) (address : Int)
    (statements : List Text) (blocks : List (Int × Expansion)) : Prop where
  adjoining : Adjoining address blocks
  each : List.Forall₂
    (fun statement block => expander.expand none scope block.1 statement = .ok block.2)
    statements blocks

/-- The instructions of expanded blocks, one after the other. -/
def instructions (blocks : List (Int × Expansion)) : List Text :=
  blocks.flatMap fun block => block.2.statements

@[simp]
theorem instructions_cons (block : Int × Expansion) (blocks : List (Int × Expansion)) :
    instructions (block :: blocks) = block.2.statements ++ instructions blocks := rfl

/-- An item of a listing as a block of instructions at its address. -/
def itemBlock (item : Item) : Int × Expansion :=
  (item.address, item.expansion)

namespace Request

variable {request : Request} {files : FileSystem} {environment : Environment} {expander : Expander}
variable {address : Int} {blocks : List (Int × Expansion)} {statements : List Text}

/-- The settings of a request in an environment. -/
def settingsIn (request : Request) (environment : Environment) : Settings :=
  request.settings (Settings.ofEnvironment environment).1

/-- An expander with the table that is named by the request or else by the environment. -/
def Loads (request : Request) (files : FileSystem) (environment : Environment)
    (expander : Expander) : Prop :=
  ∃ table, (Table.ofSettings files (request.settingsIn environment)).1 = .ok table ∧
    expander = Expander.ofSettings (request.settingsIn environment) table

/-- The blocks that statements or a listing are expanded to. -/
inductive Expands (request : Request) (files : FileSystem) (expander : Expander) :
    List (Int × Expansion) → Prop
  | statements {blocks : List (Int × Expansion)} (noListing : request.input = none)
      (given : request.statements ≠ [])
      (expanded : ExpandedInTurn expander request.scope (request.startAddress expander)
        request.statements blocks) :
      Expands request files expander blocks
  | listing {path text : Text} {items : List Item} (input : request.input = some path)
      (content : files.readText (PathName.normalize path) = .ok text)
      (expanded : (Listing.ofLines expander none request.scope
        (some (request.startAddress expander)) (Text.lines text)).result = .ok items) :
      Expands request files expander (items.map itemBlock)

theorem adjoining_map_itemBlock {items : List Item}
    (consecutive : Listing.Consecutive address items) :
    Adjoining address (items.map itemBlock) := by
  induction items generalizing address with
  | nil => trivial
  | cons item items ih => exact ⟨consecutive.1, ih consecutive.2⟩

/-- The items of a listing adjoin each other. -/
theorem adjoining_itemBlocks {wanted : Option Variant} {outer : Scope} {lines : List Text}
    {items : List Item}
    (expanded : (Listing.ofLines expander wanted outer (some address) lines).result = .ok items) :
    Adjoining address (items.map itemBlock) := by
  rcases Listing.exists_linesExpanded_of_ofLines_eq_ok expanded with
    ⟨table, contributions, _, linesExpanded, rfl⟩
  exact adjoining_map_itemBlock linesExpanded.consecutive

theorem expandedInTurn_cons_iff {scope : Scope} {statement : Text} {block : Int × Expansion} :
    ExpandedInTurn expander scope address (statement :: statements) (block :: blocks) ↔
      block.1 = address ∧ expander.expand none scope address statement = .ok block.2 ∧
        ExpandedInTurn expander scope (address + block.2.length) statements blocks := by
  constructor
  · rintro ⟨⟨rfl, adjoining⟩, each⟩
    cases each with
    | cons first later => exact ⟨rfl, first, adjoining, later⟩
  · rintro ⟨rfl, first, adjoining, later⟩
    exact ⟨⟨rfl, adjoining⟩, .cons first later⟩

/-- No statement fails if each is expanded in its turn. -/
theorem expandFrom_eq_iff {scope : Scope} :
    expandFrom expander scope address statements = ⟨blocks, none⟩ ↔
      ExpandedInTurn expander scope address statements blocks := by
  induction statements generalizing address blocks with
  | nil =>
      constructor
      · intro expanded
        cases expanded
        exact ⟨trivial, .nil⟩
      · rintro ⟨_, ⟨⟩⟩
        rfl
  | cons statement statements ih =>
      cases blocks with
      | nil =>
          constructor
          · intro expanded
            cases outcome : expander.expand none scope address statement <;>
              simp [expandFrom, outcome] at expanded
          · rintro ⟨_, ⟨⟩⟩
      | cons block blocks =>
          rw [expandedInTurn_cons_iff]
          constructor
          · intro expanded
            cases outcome : expander.expand none scope address statement with
            | error error => simp [expandFrom, outcome] at expanded
            | ok first =>
                simp only [expandFrom, outcome, Progress.mk.injEq, List.cons.injEq] at expanded
                rcases expanded with ⟨⟨rfl, rfl⟩, finished⟩
                exact ⟨rfl, rfl, ih.1 (congrArg (Progress.mk _) finished)⟩
          · rcases block with ⟨blockAddress, expansion⟩
            rintro ⟨rfl, first, later⟩
            simp only [expandFrom, first, ih.2 later]

/-- Each line shows the address that its index gives. -/
theorem instructionLines_eq_mapIdx (address : Int) (instructions : List Text) :
    request.instructionLines address instructions = instructions.mapIdx fun index instruction =>
      request.instructionLine (address + instructionLength * index) instruction := by
  induction instructions generalizing address with
  | nil => rfl
  | cons instruction instructions ih =>
      have reach : ∀ index : Nat, address + instructionLength + instructionLength * index =
          address + instructionLength * (index + 1 : Nat) := by
        intro index
        simp only [instructionLength]
        omega
      simp only [instructionLines, ih, List.mapIdx_cons, reach]
      simp

theorem instructionLines_congr {other : Request} (same : other.addresses = request.addresses) :
    other.instructionLines = request.instructionLines := by
  funext address instructions
  simp only [instructionLines_eq_mapIdx, instructionLine, same]

theorem instructionLines_append (first later : List Text) :
    request.instructionLines address (first ++ later) =
      request.instructionLines address first ++
        request.instructionLines (address + instructionLength * first.length) later := by
  have reach : ∀ index : Nat,
      address + instructionLength * first.length + instructionLength * index =
        address + instructionLength * (index + first.length : Nat) := by
    intro index
    simp only [instructionLength]
    omega
  simp only [instructionLines_eq_mapIdx, List.mapIdx_append, reach]

/-- Blocks that adjoin are printed like one block. -/
theorem flatMap_instructionLines (adjoining : Adjoining address blocks) :
    (blocks.flatMap fun block => request.instructionLines block.1 block.2.statements) =
      request.instructionLines address (instructions blocks) := by
  induction blocks generalizing address with
  | nil => rfl
  | cons block blocks ih =>
      rcases adjoining with ⟨rfl, later⟩
      have reach : (block.2.length : Int) = instructionLength * block.2.statements.length := by
        simp [Expansion.length]
      rw [List.flatMap_cons, ih later, instructions_cons, instructionLines_append, reach]

/-- Statements are printed if all of them can be expanded. -/
theorem prints_runStatements_iff {lines : List Text} :
    (request.runStatements expander).Prints lines ↔
      ∃ blocks, ExpandedInTurn expander request.scope (request.startAddress expander)
          request.statements blocks ∧
        lines = request.instructionLines (request.startAddress expander) (instructions blocks) := by
  simp only [Report.Prints, runStatements, Option.map_eq_none_iff]
  constructor
  · rintro ⟨finished, rfl⟩
    have expanded := expandFrom_eq_iff.1 (congrArg (Progress.mk _) finished)
    exact ⟨_, expanded, flatMap_instructionLines expanded.adjoining⟩
  · rintro ⟨blocks, expanded, rfl⟩
    simp only [expandFrom_eq_iff.2 expanded, true_and]
    exact flatMap_instructionLines expanded.adjoining

/-- A listing is printed if it can be expanded. -/
theorem prints_runLines_iff {texts lines : List Text} :
    (request.runLines expander texts).Prints lines ↔
      ∃ items, (Listing.ofLines expander none request.scope
          (some (request.startAddress expander)) texts).result = .ok items ∧
        lines = request.instructionLines (request.startAddress expander)
          (instructions (items.map itemBlock)) := by
  simp only [Report.Prints, runLines]
  cases expanded : (Listing.ofLines expander none request.scope
    (some (request.startAddress expander)) texts).result with
  | error error => simp
  | ok items =>
      have printed : (items.flatMap fun item =>
          request.instructionLines item.address item.expansion.statements) =
          request.instructionLines (request.startAddress expander)
            (instructions (items.map itemBlock)) := by
        rw [← flatMap_instructionLines (adjoining_itemBlocks expanded), List.flatMap_map]
        rfl
      simp [printed, eq_comm]

/-- With a table, a request prints the instructions of all its blocks, or it fails. -/
theorem prints_runExpander_iff {lines : List Text} (expanding : request.list = false) :
    (request.runExpander files expander).Prints lines ↔
      ∃ blocks, request.Expands files expander blocks ∧
        lines = request.instructionLines (request.startAddress expander) (instructions blocks) := by
  simp only [runExpander, expanding, Bool.false_eq_true, if_false]
  constructor
  · intro prints
    cases input : request.input with
    | none =>
        simp only [input, List.isEmpty_iff] at prints
        split at prints
        · exact absurd prints (Report.not_prints_ofFailure _)
        · next given =>
            rcases prints_runStatements_iff.1 prints with ⟨blocks, expanded, printed⟩
            exact ⟨blocks, .statements input given expanded, printed⟩
    | some path =>
        simp only [input, runListing, Report.prints_addRemarks_iff] at prints
        cases content : files.readText (PathName.normalize path) with
        | error fault =>
            simp only [content] at prints
            exact absurd prints (Report.not_prints_ofFailure _)
        | ok text =>
            simp only [content] at prints
            rcases prints_runLines_iff.1 prints with ⟨items, expanded, printed⟩
            exact ⟨_, .listing input content expanded, printed⟩
  · rintro ⟨blocks, expands, printed⟩
    cases expands with
    | statements noListing given expanded =>
        simp only [noListing, List.isEmpty_iff, given, if_false]
        exact prints_runStatements_iff.2 ⟨blocks, expanded, printed⟩
    | listing input content expanded =>
        simp only [input, runListing, Report.prints_addRemarks_iff, content]
        exact prints_runLines_iff.2 ⟨_, expanded, printed⟩

theorem prints_run_iff {lines : List Text} :
    (request.run files environment).Prints lines ↔
      ∃ expander, request.Loads files environment expander ∧
        (request.runExpander files expander).Prints lines := by
  simp only [run, Loads, settingsIn, Report.prints_addRemarks_iff]
  cases (Table.ofSettings files (request.settings (Settings.ofEnvironment environment).1)).1 with
  | error fault => simp
  | ok table => simp

end Request

theorem prints_run_iff {files : FileSystem} {environment : Environment} {words lines : List Text} :
    (run files environment words).Prints lines ↔
      ∃ sorted command, Words.read words = .ok sorted ∧
        Command.ofWords files sorted = .ok command ∧
        (command.run files environment).Prints lines := by
  unfold run
  cases Words.read words with
  | error fault => simp
  | ok sorted =>
      simp only [Except.ok.injEq, exists_eq_left', exists_and_left]
      cases Command.ofWords files sorted with
      | error fault => simp
      | ok command => simp

end PseudoAsm.CommandLine
