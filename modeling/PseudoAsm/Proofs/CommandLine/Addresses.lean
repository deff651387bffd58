import PseudoAsm.Proofs.CommandLine.Requests
import PseudoAsm.Proofs.CommandLine.Runs
import PseudoAsm.Proofs.Word.Address
import PseudoAsm.Proofs.Word.Split

/-!
# Printed addresses

With addresses, every instruction of a run is printed behind the address where it stands. The
addresses count on by four from the first instruction of the run to the last one, whichever
statement an instruction comes from, and they are shown modulo `2 ^ 32`. A statement without
instructions takes no address. The first address may be any integer: the command line gives one as a
numeral, which is made a word when it is read, and the environment gives one that is kept as it is.
-/

namespace PseudoAsm

namespace Text

/-- What stands in front of the first escape character is printed as it is. -/
theorem plain_append {front : Text} (noEscape : '\x1b' ∉ front) (text : Text) :
    plain (front ++ text) = front ++ plain text := by
  induction front with
  | nil => rfl
  | cons c front ih =>
      rw [List.mem_cons, not_or] at noEscape
      have noSequence : sequenceLength (c :: (front ++ text)) = 0 := by
        rw [sequenceLength]
        intro rest escape
        exact noEscape.1 (List.cons.inj escape).1.symm
      rw [List.cons_append, List.cons_append, ← ih noEscape.2]
      simp only [plain, plainFrom, noSequence]

end Text

theorem Numeral.exists_read?_of_word? {text : Text} {word : Word}
    (spelt : Numeral.word? text = some word) :
    ∃ numeral, Numeral.read? text = some numeral ∧ word = Word.ofInt numeral.value := by
  simp only [word?, readWord] at spelt
  cases read : Numeral.read? text with
  | none => simp [read, Except.toOption] at spelt
  | some numeral =>
      refine ⟨numeral, rfl, ?_⟩
      simp only [read, Numeral.word] at spelt
      split at spelt
      all_goals split_ifs at spelt
      all_goals simp_all [Except.toOption]

namespace CommandLine

variable {request : Request} {files : FileSystem} {environment : Environment}
variable {expander : Expander}

/-- Where a run starts: at the last number for this on the command line, or else at the address that
is set in the environment. -/
inductive IsStart (environment : Environment) (words : Words) : Int → Prop
  | given {text : Text} {numeral : Numeral} (last : words.value? .pc = some text)
      (read : Numeral.read? text = some numeral) : IsStart environment words numeral.value
  | setting (noneGiven : words.value? .pc = none) :
      IsStart environment words (Settings.ofEnvironment environment).1.textBase

/-- Every run starts at the address that is given, or at that of the environment. -/
theorem exists_isStart {words : Words} (asked : Request.ofWords files words = .ok request)
    (loads : request.Loads files environment expander) :
    ∃ start, IsStart environment words start ∧
      request.startAddress expander ≡ start [ZMOD 2 ^ 32] := by
  have startRead := Request.start_of_ofWords_eq_ok asked
  cases last : words.value? .pc with
  | none =>
      rw [last] at startRead
      have noStart : none = request.start := Except.ok.inj startRead
      rcases loads with ⟨table, _, rfl⟩
      refine ⟨_, .setting last, ?_⟩
      rw [Request.startAddress, ← noStart]
      rfl
  | some text =>
      rw [last, Option.mapM_some, Request.readStart] at startRead
      cases spelt : Numeral.word? text with
      | none =>
          rw [spelt] at startRead
          cases startRead
      | some word =>
          rw [spelt] at startRead
          have someStart : some word = request.start := Except.ok.inj startRead
          rcases Numeral.exists_read?_of_word? spelt with ⟨numeral, read, rfl⟩
          refine ⟨_, .given last read, ?_⟩
          rw [Request.startAddress, ← someStart]
          exact Word.toInt_ofInt_modEq numeral.value

namespace Request

/-- A line with an address shows the address, two blanks and the instruction. -/
theorem exists_plain_instructionLine (addresses : request.addresses = true) (address : Int)
    (instruction : Text) :
    ∃ digits, Word.Shows digits address ∧
      Text.plain (request.instructionLine address instruction) =
        "0x".toList ++ digits ++ "  ".toList ++ Text.plain instruction := by
  rcases Word.exists_shows address with ⟨digits, shown, shows⟩
  have noEscape : '\x1b' ∉ "0x".toList ++ digits ++ "  ".toList := by
    have notADigit : '\x1b' ∉ digits := fun member => absurd (shows.letters _ member) (by decide)
    simp [notADigit]
  refine ⟨digits, shows, ?_⟩
  rw [instructionLine, if_pos addresses, shown, Text.plain_append noEscape]

end Request

/-- A run that expands with addresses shows, before the instruction of each index in the whole run,
the start address and four times the index. -/
theorem printed_addresses_are_consecutive {words : List Text} {sorted : Words}
    (read : Words.read words = .ok sorted)
    (asked : Command.ofWords files sorted = .ok (.expand request))
    (addresses : request.addresses = true) (expanding : request.list = false)
    (success : (run files environment words).exitCode = 0) :
    ∃ (expander : Expander) (blocks : List (Int × Expansion)) (lines : List Text) (start : Int),
      request.Loads files environment expander ∧ request.Expands files expander blocks ∧
      IsStart environment sorted start ∧
      (run files environment words).output = Text.unlines lines ∧
      lines.length = (instructions blocks).length ∧
      ∀ (index : Nat) (instruction : Text), (instructions blocks)[index]? = some instruction →
        ∃ digits, Word.Shows digits (start + 4 * index) ∧
          lines[index]? =
            some ("0x".toList ++ digits ++ "  ".toList ++ Text.plain instruction) := by
  rcases Report.exitCode_eq_zero_iff.1 success with ⟨printed, prints⟩
  rcases prints_run_iff.1 prints with ⟨sortedAgain, command, readAgain, askedAgain, runPrints⟩
  obtain rfl : sorted = sortedAgain := Except.ok.inj (read.symm.trans readAgain)
  obtain rfl : Command.expand request = command := Except.ok.inj (asked.symm.trans askedAgain)
  rcases Request.prints_run_iff.1 runPrints with ⟨expander, loads, expanderPrints⟩
  rcases (Request.prints_runExpander_iff expanding).1 expanderPrints with ⟨blocks, expands, rfl⟩
  rcases exists_isStart (Command.ofWords_eq_ok_expand asked) loads with ⟨start, isStart, sameWord⟩
  refine ⟨expander, blocks, _, start, loads, expands, isStart, prints.output, ?_, ?_⟩
  · simp [Request.instructionLines_eq_mapIdx]
  · intro index instruction atIndex
    rcases Request.exists_plain_instructionLine addresses
      (request.startAddress expander + 4 * index) instruction with ⟨digits, shows, line⟩
    refine ⟨digits, shows.congr (sameWord.add_right _), ?_⟩
    rw [← line]
    simp [Request.instructionLines_eq_mapIdx, atIndex, instructionLength]

/-- A run that starts at the last word of the address space, after many turns. -/
def lastWordRun : Report :=
  run (fun _ => .error .missing) [("PSEXPAND_TEXT_BASE".toList, "0xfffffffffc".toList)]
    ["li t0, 100000".toList, "-a".toList, "# nothing".toList, "nop".toList]

theorem printed_addresses_are_consecutive_lastWordRun :
    lastWordRun.exitCode = 0 ∧
      lastWordRun.output = Text.unlines (["0xfffffffc  lui t0, 24", "0x00000000  addi t0, t0, 1696",
        "0x00000004  addi x0, x0, 0"].map String.toList) ∧
      ∃ (blocks : List (Int × Expansion)) (lines : List Text),
        lastWordRun.output = Text.unlines lines ∧
        lines.length = (instructions blocks).length ∧
        ∀ (index : Nat) (instruction : Text), (instructions blocks)[index]? = some instruction →
          ∃ digits, Word.Shows digits (0xfffffffffc + 4 * index) ∧
            lines[index]? =
              some ("0x".toList ++ digits ++ "  ".toList ++ Text.plain instruction) := by
  have success : lastWordRun.exitCode = 0 := rfl
  rcases printed_addresses_are_consecutive rfl rfl rfl rfl success with
    ⟨expander, blocks, lines, start, _, _, isStart, output, length, addresses⟩
  cases isStart with
  | given last _ => cases last
  | setting _ => exact ⟨success, rfl, blocks, lines, output, length, addresses⟩

end CommandLine

end PseudoAsm
