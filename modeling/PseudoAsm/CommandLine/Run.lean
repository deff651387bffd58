import PseudoAsm.CommandLine.Report
import PseudoAsm.Listing.Basic

/-!
# Running the program

A run reads the command line, takes the table that the command line or the environment names, and
prints the instructions that statements or a listing stand for, one on a line.

Statements are expanded at consecutive addresses, and what was printed before one fails stays. A
listing is printed only if the whole of it can be expanded.
-/

namespace PseudoAsm.CommandLine

/-- A note as a line for the user; only a verbose run shows more than warnings. -/
def noteLine? (verbose : Bool) (note : Note) : Option Text :=
  match verbose, note.level with
  | true, .debug => some ("DEBUG: ".toList ++ note.message)
  | true, .warning => some ("WARNING: ".toList ++ note.message)
  | false, .debug => none
  | false, .warning => some note.message

namespace Request

/-- The notes that the user sees, as lines. -/
def remarks (request : Request) (notes : List Note) : List Text :=
  notes.filterMap (noteLine? request.verbose)

/-- The settings of a run: those of the environment, as far as the request has none. -/
def settings (request : Request) (settings : Settings) : Settings where
  tablePath := (request.table.map PathName.normalize).or settings.tablePath
  preferred := request.variant.getD settings.preferred
  textBase := settings.textBase

/-- The symbols of the request are all that is in scope. -/
def scope (request : Request) : Scope :=
  [request.symbols]

/-- The address of the first statement. -/
def startAddress (request : Request) (expander : Expander) : Int :=
  match request.start with
  | none => expander.textBase
  | some start => start.toInt

/-- An instruction as it is printed, behind its address if addresses are asked for. -/
def instructionLine (request : Request) (address : Int) (instruction : Text) : Text :=
  if request.addresses then (Word.ofInt address).address ++ "  ".toList ++ instruction
  else instruction

/-- The instructions of an expansion, from an address on, as they are printed. -/
def instructionLines (request : Request) (address : Int) : List Text → List Text
  | [] => []
  | instruction :: instructions =>
    request.instructionLine address instruction ::
      instructionLines request (address + instructionLength) instructions

/-- Expands statements at consecutive addresses, up to the first that fails. -/
def expandFrom (expander : Expander) (scope : Scope) (address : Int) :
    List Text → Progress ExpansionError (Int × Expansion)
  | [] => ⟨[], none⟩
  | statement :: statements =>
    match expander.expand none scope address statement with
    | .error error => ⟨[], some error⟩
    | .ok expansion =>
      let later := expandFrom expander scope (address + expansion.length) statements
      ⟨(address, expansion) :: later.done, later.stopped⟩

/-- Expands the statements of the command line and prints what was done before one fails. -/
def runStatements (request : Request) (expander : Expander) : Report :=
  let progress :=
    expandFrom expander request.scope (request.startAddress expander) request.statements
  { results := progress.done.flatMap fun (address, expansion) =>
      request.instructionLines address expansion.statements
    remarks := request.remarks (progress.done.flatMap (·.2.notes))
    failure := progress.stopped.map .expansion }

/-- Expands the lines of a listing and prints all of it or nothing. -/
def runLines (request : Request) (expander : Expander) (lines : List Text) : Report :=
  let listing :=
    Listing.ofLines expander none request.scope (some (request.startAddress expander)) lines
  let remarks := request.remarks listing.notes
  match listing.result with
  | .error error => ⟨[], remarks, some (.expansion error)⟩
  | .ok items =>
    let results := items.flatMap fun item =>
      request.instructionLines item.address item.expansion.statements
    ⟨results, remarks, none⟩

/-- Reads a listing from a file and expands it. -/
def runListing (request : Request) (files : FileSystem) (expander : Expander) (path : Text) :
    Report :=
  let file := PathName.normalize path
  let remark := "Expanding ".toList ++ file ++ "...".toList
  Report.addRemarks (if request.verbose then [Text.plain remark] else [])
    (match files.readText file with
    | .error fault => Report.ofFailure (.listing fault)
    | .ok text => request.runLines expander (Text.lines text))

/-- A form as it is listed: the usage in a column of twenty characters before the description, and
the templates set in below. -/
def formLines (form : Form) : List Text :=
  let heading :=
    if form.description.isEmpty then form.usage
    else List.rightpad 20 ' ' form.usage ++ " ".toList ++ form.description
  let templates (recipe : Recipe) : List Text := recipe.map ("    ".toList ++ ·)
  let compact := match form.compact with
    | none => []
    | some recipe => "  compact:".toList :: templates recipe
  heading :: templates (form.standard.getD []) ++ compact

/-- Does what is asked for with an expander. -/
def runExpander (request : Request) (files : FileSystem) (expander : Expander) : Report :=
  if request.list then Report.ofResults (expander.table.forms.flatMap formLines)
  else
    match request.input with
    | some path => request.runListing files expander path
    | none =>
      if request.statements.isEmpty then Report.ofFailure .nothingToDo
      else request.runStatements expander

/-- Does what is asked for, with the table that the settings name. -/
def run (request : Request) (files : FileSystem) (environment : Environment) : Report :=
  let (settings, settingsNotes) := Settings.ofEnvironment environment
  let settings := request.settings settings
  let (table, tableNotes) := Table.ofSettings files settings
  Report.addRemarks (request.remarks (settingsNotes ++ tableNotes))
    (match table with
    | .error fault => Report.ofFailure (.table fault)
    | .ok table =>
      let inUse := Note.usingTable table.forms.length table.mnemonics.length
      Report.addRemarks (request.remarks [inUse])
        (request.runExpander files (Expander.ofSettings settings table)))

end Request

/-- The name of the program with its version. -/
def versionLine : Text :=
  "psexpand, version 1.0.0".toList

/-- Explains the program, in lines of at most 78 characters. -/
def helpLines : List Text :=
  Failure.usageLine ::
    ["",
      "  Expand RISC-V pseudo-instructions into basic instructions.",
      "",
      "  STATEMENTS are pseudo-instruction statements, expanded in order at",
      "  consecutive addresses. Use -i to expand a source listing instead; in a",
      "  listing, labels may be defined with \"name:\" and basic instructions are",
      "  copied through unchanged.",
      "",
      "  Examples:",
      "      psexpand \"li t0, 100000\"",
      "      psexpand -S loop=0x00400000 \"bnez t0, loop\"",
      "      psexpand -i program.s -a",
      "",
      "Options:"].map String.toList ++
    Switch.explained.flatMap fun (spellings, explanation) =>
      Switch.helpLines spellings explanation

/-- Does what a command asks for. -/
def Command.run (files : FileSystem) (environment : Environment) : Command → Report
  | .version => Report.ofResults [versionLine]
  | .help => Report.ofResults helpLines
  | .expand request => request.run files environment

/-- Runs the program on the words of a command line. -/
def run (files : FileSystem) (environment : Environment) (words : List Text) : Report :=
  match Words.read words with
  | .error fault => Report.ofFailure (.words fault)
  | .ok words =>
    match Command.ofWords files words with
    | .error fault => Report.ofFailure (.value fault)
    | .ok command => command.run files environment

/-- The paths that a run may look at. -/
def paths (environment : Environment) (words : List Text) : List Text :=
  let named := match Words.read words with
    | .error _ => []
    | .ok words => words.values .input ++ words.values .table
  let all := named ++ (environment.value? "PSEXPAND_TABLE").toList
  all ++ all.map PathName.normalize

end PseudoAsm.CommandLine
