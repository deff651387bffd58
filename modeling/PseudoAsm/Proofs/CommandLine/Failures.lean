import PseudoAsm.Proofs.CommandLine.Addresses

/-!
# What is printed before a failure

Statements are printed one by one, so a run that stops at a statement has printed what the
statements before it stand for, and those behind it do not matter. A listing is expanded before
anything is printed, so one that cannot be expanded leaves nothing. Either way the failure is
announced last, and what was noted while statements were expanded is no warning.
-/

namespace PseudoAsm

section Notes

variable {site : Site}

theorem Filling.level_of_note?_eq_some {filling : Filling} {note : Note}
    (noted : filling.note? = some note) : note.level = .debug := by
  unfold note? at noted
  split at noted
  · cases noted
    rfl
  · next cause _ =>
      cases noted
      cases cause <;> rfl
  · cases noted

/-- An expansion warns of nothing. -/
theorem Form.level_of_mem_notes {form : Form} {variant : Variant} {expansion : Expansion}
    (expanded : form.expand variant site = .ok expansion) {note : Note}
    (noted : note ∈ expansion.notes) : note.level = .debug := by
  unfold expand at expanded
  split at expanded
  · cases expanded
  · cases expanded
    rcases List.mem_append.1 noted with filled | summary
    · rcases List.mem_flatMap.1 filled with ⟨template, _, inTemplate⟩
      rcases List.mem_filterMap.1 inTemplate with ⟨filling, _, ofFilling⟩
      exact Filling.level_of_note?_eq_some ofFilling
    · rw [List.mem_singleton] at summary
      subst summary
      rfl

/-- Nothing that is noted about a statement is a warning. -/
theorem Expander.level_of_mem_notes {expander : Expander} {wanted : Option Variant}
    {scope : Scope} {pc : Int} {line : Text} {expansion : Expansion}
    (expanded : expander.expand wanted scope pc line = .ok expansion) {note : Note}
    (noted : note ∈ expansion.notes) : note.level = .debug := by
  unfold expand at expanded
  split at expanded
  · cases expanded
    cases noted
  · rcases Outcome.bind_eq_ok_iff.1 expanded with ⟨form, _, formExpanded⟩
    rcases expandForm_eq_ok_iff.1 formExpanded with ⟨words, _, success⟩
    exact Form.level_of_mem_notes success noted

end Notes

theorem Text.plain_eq_self {text : Text} (noEscape : '\x1b' ∉ text) : plain text = text := by
  have same := plain_append noEscape []
  rw [List.append_nil] at same
  simpa [plain, plainFrom] using same

namespace CommandLine

section CommandLines

/-- Every long name is read as its switch. -/
theorem SwitchWord.read_name : ∀ entry ∈ Switch.named,
    entry.1 ≠ "--".toList ∧ isSwitchWord entry.1 = true ∧
      read entry.1 = .ok (match entry.2 with
        | .flag flag => ⟨[.flag flag], none⟩
        | .parameter parameter => ⟨[], some (parameter, entry.1)⟩) := by
  decide +kernel

theorem Switch.exists_name (switch : Switch) : ∃ name, (name, switch) ∈ named := by
  have all : switch ∈ named.map Prod.snd := by
    cases switch with
    | parameter parameter => cases parameter <;> decide
    | flag flag => cases flag <;> decide
  rcases List.mem_map.1 all with ⟨⟨name, _⟩, member, rfl⟩
  exact ⟨name, member⟩

/-- There is a command line for any switches and any statements. -/
theorem Words.exists_read (switches : List GivenSwitch) (statements : List Text) :
    ∃ words, read words = .ok ⟨switches, statements⟩ := by
  induction switches with
  | nil => exact ⟨"--".toList :: statements, by simp [read]⟩
  | cons switch switches ih =>
      rcases ih with ⟨words, readWords⟩
      cases switch with
      | flag flag =>
          rcases Switch.exists_name (.flag flag) with ⟨name, member⟩
          rcases SwitchWord.read_name _ member with ⟨notEnd, isSwitch, readName⟩
          refine ⟨name :: words, ?_⟩
          rw [read, if_neg notEnd, if_pos isSwitch]
          simp only [readName, readWords]
          rfl
      | parameter parameter value =>
          rcases Switch.exists_name (.parameter parameter) with ⟨name, member⟩
          rcases SwitchWord.read_name _ member with ⟨notEnd, isSwitch, readName⟩
          refine ⟨name :: value :: words, ?_⟩
          rw [read, if_neg notEnd, if_pos isSwitch]
          simp only [readName, readWords]
          rfl

end CommandLines

variable {files : FileSystem} {environment : Environment} {expander : Expander}
variable {scope : Scope} {address : Int} {before : List Text} {statement : Text}
variable {blocks : List (Int × Expansion)} {error : ExpansionError}

/-- The address where the last of some blocks ends. -/
def addressAfter (address : Int) : List (Int × Expansion) → Int
  | [] => address
  | block :: blocks => addressAfter (address + block.2.length) blocks

theorem ExpandedInTurn.level_of_mem_notes
    (expanded : ExpandedInTurn expander scope address before blocks) {note : Note}
    (noted : note ∈ blocks.flatMap (·.2.notes)) : note.level = .debug := by
  rcases List.mem_flatMap.1 noted with ⟨block, member, inBlock⟩
  rcases List.mem_iff_getElem?.1 member with ⟨index, atIndex⟩
  rcases exists_getElem?_of_forall₂ expanded.each.flip atIndex with ⟨statement, _, success⟩
  exact Expander.level_of_mem_notes success inBlock

namespace Request

variable {request : Request}

/-- Statements are expanded up to the first that fails, whatever stands behind it. -/
theorem expandFrom_append_of_failure
    (expanded : ExpandedInTurn expander scope address before blocks)
    (failed : expander.expand none scope (addressAfter address blocks) statement = .error error)
    (after : List Text) :
    expandFrom expander scope address (before ++ statement :: after) = ⟨blocks, some error⟩ := by
  induction before generalizing address blocks with
  | nil =>
      cases expanded.each
      rw [addressAfter] at failed
      simp only [List.nil_append, expandFrom, failed]
  | cons first before ih =>
      cases blocks with
      | nil => cases expanded.each
      | cons block blocks =>
          rcases block with ⟨blockAddress, expansion⟩
          rcases expandedInTurn_cons_iff.1 expanded with ⟨rfl, success, later⟩
          simp only [List.cons_append, expandFrom, success, ih later failed]

/-- What is worth noting about the settings and the table of a run. -/
def startNotes (request : Request) (files : FileSystem) (environment : Environment) : List Note :=
  (Settings.ofEnvironment environment).2 ++
    (Table.ofSettings files (request.settingsIn environment)).2

/-- The warnings about the settings and the table of a run. -/
def warnings (request : Request) (files : FileSystem) (environment : Environment) : List Text :=
  ((request.startNotes files environment).filter (·.level = .warning)).map Note.message

/-- Only warnings are shown to a user who has not asked for more. -/
theorem remarks_of_not_verbose (quiet : request.verbose = false) (notes : List Note) :
    request.remarks notes = (notes.filter (·.level = .warning)).map Note.message := by
  induction notes with
  | nil => rfl
  | cons note notes ih =>
      rw [remarks, quiet] at ih
      cases level : note.level <;> simp [remarks, noteLine?, quiet, level, ih]

theorem remarks_eq_nil_of_debug (quiet : request.verbose = false) {notes : List Note}
    (debug : ∀ note ∈ notes, note.level = .debug) : request.remarks notes = [] := by
  rw [remarks_of_not_verbose quiet, List.map_eq_nil_iff, List.filter_eq_nil_iff]
  intro note member
  simp [debug note member]

/-- With a table, a run says what it noted about its start and goes on. -/
theorem run_eq_of_loads (loads : request.Loads files environment expander) :
    request.run files environment =
      ((request.runExpander files expander).addRemarks
        (request.remarks [.usingTable expander.table.forms.length
          expander.table.mnemonics.length])).addRemarks
        (request.remarks (request.startNotes files environment)) := by
  rcases loads with ⟨table, loaded, rfl⟩
  rw [settingsIn] at loaded
  simp only [run, loaded, startNotes, settingsIn]
  rfl

/-- The statements before one are expanded, and at the address that is reached then, this one is
not. -/
structure StopsAt (request : Request) (expander : Expander) (before : List Text)
    (statement : Text) (error : ExpansionError) : Prop where
  given : ∃ after, request.statements = before ++ statement :: after
  fails : ∃ blocks,
    ExpandedInTurn expander request.scope (request.startAddress expander) before blocks ∧
      expander.expand none request.scope (addressAfter (request.startAddress expander) blocks)
        statement = .error error

/-- The report of a run that has expanded some blocks when a statement fails. -/
def failureReport (request : Request) (files : FileSystem) (environment : Environment)
    (expander : Expander) (blocks : List (Int × Expansion)) (error : ExpansionError) : Report where
  results := blocks.flatMap fun block => request.instructionLines block.1 block.2.statements
  remarks := request.remarks (request.startNotes files environment) ++
    (request.remarks
        [.usingTable expander.table.forms.length expander.table.mnemonics.length] ++
      request.remarks (blocks.flatMap (·.2.notes)))
  failure := some (.expansion error)

/-- A run stops at the first statement that fails and reports this failure. -/
theorem run_eq_failureReport {after : List Text} (expanding : request.list = false)
    (noListing : request.input = none) (loads : request.Loads files environment expander)
    (given : request.statements = before ++ statement :: after)
    (expanded : ExpandedInTurn expander request.scope (request.startAddress expander) before blocks)
    (failed : expander.expand none request.scope
      (addressAfter (request.startAddress expander) blocks) statement = .error error) :
    request.run files environment =
      request.failureReport files environment expander blocks error := by
  have stopped := expandFrom_append_of_failure expanded failed after
  rw [← given] at stopped
  have someGiven : request.statements.isEmpty = false := by simp [given]
  rw [run_eq_of_loads loads]
  simp only [runExpander, expanding, noListing, someGiven, runStatements, stopped]
  rfl

theorem lines_expansion (error : ExpansionError) :
    (Failure.expansion error).lines = ["Expansion ".toList ++ error.diagnostic.render] :=
  rfl

theorem errors_failureReport (quiet : request.verbose = false)
    (expanded : ExpandedInTurn expander scope address before blocks) :
    (request.failureReport files environment expander blocks error).errors =
      Text.unlines (request.warnings files environment ++
        [Text.plain ("Expansion ".toList ++ error.diagnostic.render)]) := by
  have ofTable : request.remarks
      [.usingTable expander.table.forms.length expander.table.mnemonics.length] = [] := by
    apply remarks_eq_nil_of_debug quiet
    intro note member
    rw [List.mem_singleton.1 member]
    rfl
  have ofBlocks : request.remarks (blocks.flatMap (·.2.notes)) = [] :=
    remarks_eq_nil_of_debug quiet fun _ => expanded.level_of_mem_notes
  simp only [Report.errors, failureReport, ofTable, ofBlocks, List.append_nil, lines_expansion,
    List.map_singleton, remarks_of_not_verbose quiet, warnings]

/-- Statements that are all expanded are printed, and without statements nothing is. -/
theorem results_run_of_expandedInTurn (expanding : request.list = false)
    (noListing : request.input = none) (loads : request.Loads files environment expander)
    (expanded : ExpandedInTurn expander request.scope (request.startAddress expander)
      request.statements blocks) :
    (request.run files environment).results =
      blocks.flatMap fun block => request.instructionLines block.1 block.2.statements := by
  have printed : (request.runStatements expander).results =
      blocks.flatMap fun block => request.instructionLines block.1 block.2.statements := by
    simp only [runStatements, expandFrom_eq_iff.2 expanded]
  have emptyStatements : request.statements.isEmpty = true → blocks = [] := by
    intro noStatements
    have each := expanded.each
    rw [List.isEmpty_iff.1 noStatements] at each
    cases each
    rfl
  rw [run_eq_of_loads loads]
  simp only [Report.addRemarks, runExpander, expanding, noListing]
  cases noStatements : request.statements.isEmpty with
  | true => simp [emptyStatements noStatements, Report.ofFailure]
  | false => simpa using printed

/-- A listing that cannot be expanded leaves nothing on the stream for results. -/
theorem run_of_ofLines_eq_error {path text : Text} (expanding : request.list = false)
    (input : request.input = some path) (loads : request.Loads files environment expander)
    (content : files.readText (PathName.normalize path) = .ok text)
    (failed : (Listing.ofLines expander none request.scope
      (some (request.startAddress expander)) (Text.lines text)).result = .error error) :
    (request.run files environment).results = [] ∧
      (request.run files environment).failure = some (.expansion error) := by
  rw [run_eq_of_loads loads]
  simp only [Report.addRemarks, runExpander, expanding, input, runListing, content, runLines,
    failed]
  exact ⟨rfl, rfl⟩

end Request

/-- A command line that can be read does what it asks for. -/
theorem run_eq_of_read {words : List Text} {sorted : Words} {command : Command}
    (read : Words.read words = .ok sorted) (asked : Command.ofWords files sorted = .ok command) :
    run files environment words = command.run files environment := by
  simp only [run, read, asked]

section Statements

variable {others leftover statements : List Text} {switches : List GivenSwitch} {request : Request}

theorem Request.failureReport_withSource (source : List Text) (input : Option Text) :
    (request.withSource source input).failureReport files environment expander blocks error =
      request.failureReport files environment expander blocks error := by
  have sameLines : (request.withSource source input).instructionLines = request.instructionLines :=
    instructionLines_congr rfl
  simp only [failureReport, sameLines]
  rfl

/-- What stands behind a statement that fails does not matter to a run. -/
theorem run_eq_failureReport_of_read (noListing : NoListing switches)
    (asked : Command.ofWords files ⟨switches, statements⟩ = .ok (.expand request))
    (expanding : request.list = false) (loads : request.Loads files environment expander)
    (expanded : ExpandedInTurn expander request.scope (request.startAddress expander) before blocks)
    (failed : expander.expand none request.scope
      (addressAfter (request.startAddress expander) blocks) statement = .error error)
    (read : Words.read others = .ok ⟨switches, before ++ statement :: leftover⟩) :
    run files environment others =
      request.failureReport files environment expander blocks error := by
  have source := Command.ofWords_withSource noListing asked (before ++ statement :: leftover)
  have loadsToo :
      (request.withSource (before ++ statement :: leftover) none).Loads files environment
        expander :=
    loads
  rw [run_eq_of_read read source, Command.run,
    ← request.failureReport_withSource (before ++ statement :: leftover) none]
  exact Request.run_eq_failureReport expanding rfl loadsToo rfl expanded failed

/-- On its own, what stands before a statement that fails is printed. -/
theorem results_run_of_read (noListing : NoListing switches)
    (asked : Command.ofWords files ⟨switches, statements⟩ = .ok (.expand request))
    (expanding : request.list = false) (loads : request.Loads files environment expander)
    (expanded : ExpandedInTurn expander request.scope (request.startAddress expander) before blocks)
    (read : Words.read others = .ok ⟨switches, before⟩) :
    (run files environment others).results =
      (request.failureReport files environment expander blocks error).results := by
  have source := Command.ofWords_withSource noListing asked before
  have loadsToo : (request.withSource before none).Loads files environment expander := loads
  have expandedToo : ExpandedInTurn expander (request.withSource before none).scope
      ((request.withSource before none).startAddress expander)
      (request.withSource before none).statements blocks :=
    expanded
  rw [run_eq_of_read read source, Command.run, ← request.failureReport_withSource before none]
  exact Request.results_run_of_expandedInTurn expanding rfl loadsToo expandedToo

end Statements

/-- A run on statements prints what it would print for those before the first that fails, then says
why this one fails, and does not look at the others. A run on a listing that fails prints nothing.
Of the reason, terminal control sequences are not shown. -/
theorem failure_keeps_earlier_output {words : List Text} {switches : List GivenSwitch}
    {statements : List Text} {request : Request}
    (read : Words.read words = .ok ⟨switches, statements⟩)
    (asked : Command.ofWords files ⟨switches, statements⟩ = .ok (.expand request))
    (expanding : request.list = false) (loads : request.Loads files environment expander) :
    (∀ (before : List Text) (statement : Text) (error : ExpansionError), NoListing switches →
      request.StopsAt expander before statement error →
        (run files environment words).exitCode = 1 ∧
        (∃ others, Words.read others = .ok ⟨switches, before⟩) ∧
        (∀ others, Words.read others = .ok ⟨switches, before⟩ →
          (run files environment words).output = (run files environment others).output) ∧
        (before = [] → (run files environment words).output = []) ∧
        (request.verbose = false →
          (run files environment words).errors =
            Text.unlines (request.warnings files environment ++
              [Text.plain ("Expansion ".toList ++ error.diagnostic.render)]) ∧
          ('\x1b' ∉ error.diagnostic.render →
            (run files environment words).errors =
              Text.unlines (request.warnings files environment ++
                ["Expansion ".toList ++ error.diagnostic.render]))) ∧
        ∀ (others leftover : List Text),
          Words.read others = .ok ⟨switches, before ++ statement :: leftover⟩ →
            run files environment others = run files environment words) ∧
    ∀ (path text : Text) (error : ExpansionError), request.input = some path →
      files.readText (PathName.normalize path) = .ok text →
      (Listing.ofLines expander none request.scope (some (request.startAddress expander))
        (Text.lines text)).result = .error error →
          (run files environment words).exitCode = 1 ∧ (run files environment words).output = [] := by
  refine ⟨?_, ?_⟩
  · rintro before statement error noListing ⟨⟨after, given⟩, blocks, expanded, failed⟩
    have allGiven : statements = before ++ statement :: after := by
      rw [← given, ← Request.withSource_of_ofWords_eq_ok noListing
        (Command.ofWords_eq_ok_expand asked)]
      rfl
    have report : ∀ (others leftover : List Text),
        Words.read others = .ok ⟨switches, before ++ statement :: leftover⟩ →
          run files environment others =
            request.failureReport files environment expander blocks error :=
      fun _ _ => run_eq_failureReport_of_read noListing asked expanding loads expanded failed
    have thisReport := report words after (allGiven ▸ read)
    have earlier : ∀ others, Words.read others = .ok ⟨switches, before⟩ →
        (run files environment words).output = (run files environment others).output := by
      intro others readOthers
      rw [thisReport, Report.output, Report.output,
        results_run_of_read noListing asked expanding loads expanded readOthers]
    refine ⟨?_, Words.exists_read switches before, earlier, ?_, ?_, ?_⟩
    · rw [thisReport]
      rfl
    · rintro rfl
      cases expanded.each
      rw [thisReport]
      rfl
    · intro quiet
      rw [thisReport, Request.errors_failureReport quiet expanded]
      refine ⟨rfl, ?_⟩
      intro noEscape
      have noneAtAll : '\x1b' ∉ "Expansion ".toList ++ error.diagnostic.render := by
        rw [List.mem_append, not_or]
        exact ⟨by decide, noEscape⟩
      rw [Text.plain_eq_self noneAtAll]
    · intro others leftover readOthers
      rw [thisReport]
      exact report others leftover readOthers
  · intro path text error input content failed
    rcases Request.run_of_ofLines_eq_error expanding input loads content failed with
      ⟨noResults, failure⟩
    rw [run_eq_of_read read asked, Command.run]
    refine ⟨?_, ?_⟩
    · rw [Report.exitCode, failure]
      rfl
    · rw [Report.output, noResults]
      rfl

/-- A command line as far as its last statement that can be expanded. -/
def earlierWords : List Text :=
  ["-a", "--pc", "0x7ffffffc", "-Sloop=8", "li t0, 100000", "bnez t0, loop"].map String.toList

/-- A statement with a misspelt label, and one that is not reached. -/
def laterWords : List Text :=
  ["la a0, lop", "nop"].map String.toList

/-- An environment with a start that is no address. -/
def oddEnvironment : Environment :=
  [("PSEXPAND_TEXT_BASE".toList, "top".toList)]

/-- A file system in which one file has a line that cannot be expanded behind one that can. -/
def brokenFiles : FileSystem := fun path =>
  if path = "loop.s".toList then
    .ok ((Text.unlines (["nop", "j lop"].map String.toList)).map fun c => c.toNat.toUInt8)
  else .error .missing

/-- What the words ask for. -/
def stoppedRequest : Request where
  statements := ["li t0, 100000", "bnez t0, loop", "la a0, lop", "nop"].map String.toList
  start := some 0x7ffffffc
  symbols := (SymbolTable.empty SymbolTable.globalName).assign "loop".toList 8
  addresses := true

/-- The third statement fails past the middle of the address space, and so does the second line of a
listing. -/
theorem failure_keeps_earlier_output_undefinedLabel :
    ((run brokenFiles oddEnvironment (earlierWords ++ laterWords)).exitCode = 1 ∧
      (run brokenFiles oddEnvironment (earlierWords ++ laterWords)).output =
        (run brokenFiles oddEnvironment earlierWords).output ∧
      (run brokenFiles oddEnvironment (earlierWords ++ laterWords)).errors =
        Text.unlines (["Ignoring invalid PSEXPAND_TEXT_BASE value 'top'",
          "Expansion error: undefined symbol 'lop'", "hint: did you mean 'loop'?"].map
            String.toList)) ∧
    (run brokenFiles [] ["-i".toList, "loop.s".toList]).exitCode = 1 ∧
      (run brokenFiles [] ["-i".toList, "loop.s".toList]).output = [] := by
  refine ⟨?_, ?_⟩
  · have read : Words.read (earlierWords ++ laterWords) = .ok ⟨[.flag .addresses,
        .parameter .pc "0x7ffffffc".toList, .parameter .symbol "loop=8".toList],
        stoppedRequest.statements⟩ := rfl
    have loads : stoppedRequest.Loads brokenFiles oddEnvironment
        ⟨Table.builtin, .standard, 0x00400000⟩ := ⟨Table.builtin, rfl, rfl⟩
    have stops : stoppedRequest.StopsAt ⟨Table.builtin, .standard, 0x00400000⟩
        (["li t0, 100000", "bnez t0, loop"].map String.toList) "la a0, lop".toList
        (.undefinedSymbol "lop".toList ["loop".toList]) :=
      ⟨⟨["nop".toList], rfl⟩, _, Request.expandFrom_eq_iff.1 rfl, rfl⟩
    rcases (failure_keeps_earlier_output read rfl rfl loads).1 _ _ _ (by simp [NoListing]) stops
      with ⟨exitCode, _, earlier, _, errors, _⟩
    exact ⟨exitCode, earlier earlierWords rfl, (errors rfl).1.trans rfl⟩
  · have read : Words.read ["-i".toList, "loop.s".toList] =
        .ok ⟨[.parameter .input "loop.s".toList], []⟩ := rfl
    have asked : Command.ofWords brokenFiles ⟨[.parameter .input "loop.s".toList], []⟩ =
        .ok (.expand { input := some "loop.s".toList }) := rfl
    have loads : Request.Loads { input := some "loop.s".toList } brokenFiles []
        ⟨Table.builtin, .standard, 0x00400000⟩ := ⟨Table.builtin, rfl, rfl⟩
    exact (failure_keeps_earlier_output read asked rfl loads).2 "loop.s".toList
      (Text.unlines (["nop", "j lop"].map String.toList))
      (.undefinedSymbol "lop".toList []) rfl rfl rfl

/-- A word with a terminal control sequence in it. -/
def boldWord : Text := "\x1b[1mfoo".toList

/-- The control sequence in the error text is not shown. -/
theorem failure_not_shown_as_it_is_boldWord :
    ∃ (request : Request) (expander : Expander) (error : ExpansionError),
      Words.read [boldWord] = .ok ⟨[], [boldWord]⟩ ∧
      Command.ofWords (fun _ => .error .missing) ⟨[], [boldWord]⟩ = .ok (.expand request) ∧
      request.list = false ∧ request.verbose = false ∧
      request.Loads (fun _ => .error .missing) [] expander ∧
      NoListing [] ∧ request.StopsAt expander [] boldWord error ∧
      (run (fun _ => .error .missing) [] [boldWord]).errors ≠
        Text.unlines (request.warnings (fun _ => .error .missing) [] ++
          ["Expansion ".toList ++ error.diagnostic.render]) := by
  refine ⟨{ statements := [boldWord] }, ⟨Table.builtin, .standard, 0x00400000⟩,
    .unknownMnemonic boldWord [], rfl, rfl, rfl, rfl, ⟨Table.builtin, rfl, rfl⟩, ?_, ?_, ?_⟩
  · simp [NoListing]
  · exact ⟨⟨[], rfl⟩, [], ⟨trivial, .nil⟩, rfl⟩
  · decide +kernel

end CommandLine

end PseudoAsm
