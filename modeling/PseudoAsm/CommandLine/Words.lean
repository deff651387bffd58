import PseudoAsm.CommandLine.Switch
import PseudoAsm.Text.Similarity

/-!
# Words of the command line

The words of a command line are switches and statements, in any order. A word that starts with a
dash and has more to it holds switches: one with its long name, or any number of letters behind one
dash. The value of a parameter is the rest of its word or else the whole next word, whatever that
looks like; behind a long name it may follow an equals sign. Two dashes alone end the switches, and
all words after them are statements.
-/

namespace PseudoAsm.CommandLine

/-- What is wrong with the words of a command line. -/
inductive UsageFault where
  /-- There is no such switch; the long names that are close to it are given. -/
  | unknown (spelling : Text) (similar : List Text)
  /-- A parameter stands at the end, without a value. -/
  | missingValue (spelling : Text)
  /-- A flag is given a value. -/
  | unwantedValue (spelling : Text)
  deriving DecidableEq, Repr

namespace UsageFault

/-- The names that may have been meant. -/
def offer : List Text → Text
  | [] => []
  | [name] => " Did you mean ".toList ++ name ++ "?".toList
  | names =>
    " (Possible options: ".toList ++
      Text.join ", " (names.mergeSort fun first second => !Text.precedes second first) ++ ")".toList

/-- What the user is told. -/
def message : UsageFault → Text
  | .unknown spelling similar => "No such option: ".toList ++ spelling ++ offer similar
  | .missingValue spelling =>
    "Option ".toList ++ Text.inApostrophes spelling ++ " requires an argument.".toList
  | .unwantedValue spelling =>
    "Option ".toList ++ Text.inApostrophes spelling ++ " does not take a value.".toList

end UsageFault

/-- The switches in one word, and the parameter whose value has to follow in the next one. -/
structure SwitchWord where
  switches : List GivenSwitch
  pending : Option (Parameter × Text)
  deriving DecidableEq, Repr

namespace SwitchWord

/-- Whether a word holds switches. -/
def isSwitchWord (word : Text) : Bool :=
  Text.starts "-" word && 1 < word.length

/-- The switches behind a single dash; the first parameter among them takes the rest as its value.
-/
def ofLetters : Text → Except UsageFault SwitchWord
  | [] => .ok ⟨[], none⟩
  | letter :: rest =>
    match Switch.ofLetter? letter with
    | none => .error (.unknown ['-', letter] [])
    | some (.flag flag) =>
      (ofLetters rest).map fun word => { word with switches := .flag flag :: word.switches }
    | some (.parameter parameter) =>
      if rest.isEmpty then .ok ⟨[], some (parameter, ['-', letter])⟩
      else .ok ⟨[.parameter parameter rest], none⟩

/-- The switches in a word, which is a long name, maybe with a value, or letters behind a dash. -/
def read (word : Text) : Except UsageFault SwitchWord :=
  let (name, value) := Text.cut '=' word
  match Switch.ofName? name, value with
  | some (.parameter parameter), some value => .ok ⟨[.parameter parameter value], none⟩
  | some (.parameter parameter), none => .ok ⟨[], some (parameter, name)⟩
  | some (.flag flag), none => .ok ⟨[.flag flag], none⟩
  | some (.flag _), some _ => .error (.unwantedValue name)
  | none, _ =>
    if Text.starts "--" word then .error (.unknown name (Text.closest name Switch.names))
    else ofLetters word.tail

end SwitchWord

/-- The switches and the statements on a command line, each in their order. -/
structure Words where
  switches : List GivenSwitch
  statements : List Text
  deriving DecidableEq, Repr

namespace Words

/-- Puts switches before the others. -/
def addSwitches (switches : List GivenSwitch) (words : Words) : Words :=
  { words with switches := switches ++ words.switches }

/-- Puts a statement before the others. -/
def addStatement (statement : Text) (words : Words) : Words :=
  { words with statements := statement :: words.statements }

/-- Sorts the words of a command line. -/
def read : List Text → Except UsageFault Words
  | [] => .ok ⟨[], []⟩
  | word :: rest =>
    if word = "--".toList then .ok ⟨[], rest⟩
    else if SwitchWord.isSwitchWord word then
      match SwitchWord.read word with
      | .error fault => .error fault
      | .ok ⟨switches, none⟩ => (read rest).map (addSwitches switches)
      | .ok ⟨switches, some (parameter, spelling)⟩ =>
        match rest with
        | [] => .error (.missingValue spelling)
        | value :: rest =>
          (read rest).map (addSwitches (switches ++ [.parameter parameter value]))
    else (read rest).map (addStatement word)

end Words

end PseudoAsm.CommandLine
