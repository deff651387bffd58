import PseudoAsm.CommandLine.Words
import PseudoAsm.File.Access
import PseudoAsm.Symbol.Scope

/-!
# Requests

A request is what the words of a command line ask for. The values of the parameters are read in the
order in which the parameters first appear, and the first value that is no good refuses the whole
command line. Of several values of one parameter the last one counts, only labels add up; of several
flags for the variant the last one counts too. A question for the version or for help is answered
before anything else is looked at.
-/

namespace PseudoAsm.CommandLine

/-- What is wrong with the value of a parameter. -/
inductive ValueFault where
  /-- The start is no address. -/
  | startAddress (value : Text)
  /-- A label has no name, or no equals sign after it. -/
  | definition (value : Text)
  /-- What is given to a label is no address. -/
  | labelAddress (value : Text)
  /-- The file of a parameter cannot be read. -/
  | file (parameter : Parameter) (path : Text) (fault : FileFault)
  deriving DecidableEq, Repr

namespace ValueFault

/-- The parameter whose value is wrong. -/
def parameter : ValueFault → Parameter
  | .startAddress _ => .pc
  | .definition _ | .labelAddress _ => .symbol
  | .file parameter _ _ => parameter

/-- What is wrong, in words. -/
def reason : ValueFault → Text
  | .startAddress value => "invalid address ".toList ++ Text.quoted value
  | .definition value => "expected NAME=ADDRESS, got ".toList ++ Text.quoted value
  | .labelAddress value => "invalid address in ".toList ++ Text.quoted value
  | .file _ path fault =>
    let trouble := match fault with
      | .directory => " is a directory."
      | .denied => " is not readable."
      | _ => " does not exist."
    "File ".toList ++ Text.quoted path ++ trouble.toList

/-- What the user is told. -/
def message (fault : ValueFault) : Text :=
  "Invalid value for ".toList ++ fault.parameter.spellings ++ ": ".toList ++ fault.reason

end ValueFault

/-- What to do with statements or with a listing, and how. -/
structure Request where
  statements : List Text := []
  input : Option Text := none
  table : Option Text := none
  start : Option Word := none
  symbols : SymbolTable := .empty SymbolTable.globalName
  variant : Option Variant := none
  addresses : Bool := false
  list : Bool := false
  verbose : Bool := false

/-- What a command line asks for: a question to be answered, or something to be expanded. -/
inductive Command where
  | version
  | help
  | expand (request : Request)

/-- The variant that a flag chooses. -/
def Flag.variant? : Flag → Option Variant
  | .compact => some .compact
  | .noCompact => some .standard
  | _ => none

/-- The question that a flag asks. -/
def Flag.question? : Flag → Option Command
  | .version => some .version
  | .help => some .help
  | _ => none

namespace Words

/-- The flags, in their order. -/
def flags (words : Words) : List Flag :=
  words.switches.filterMap GivenSwitch.flag?

/-- The parameters, in the order of their first appearance. -/
def parameters (words : Words) : List Parameter :=
  ((words.switches.filterMap GivenSwitch.parameter?).map Prod.fst).eraseDups

/-- The values of a parameter, in their order. -/
def values (words : Words) (parameter : Parameter) : List Text :=
  ((words.switches.filterMap GivenSwitch.parameter?).filter (·.1 == parameter)).map Prod.snd

/-- The value of a parameter that counts: the last one. -/
def value? (words : Words) (parameter : Parameter) : Option Text :=
  (words.values parameter).getLast?

end Words

namespace Request

/-- The path in the value of a parameter, if a file can be read there. -/
def readPath (files : FileSystem) (parameter : Parameter) (path : Text) :
    Except ValueFault Text :=
  match files path with
  | .ok _ => .ok path
  | .error fault => .error (.file parameter path fault)

/-- The address that a value spells. -/
def readStart (value : Text) : Except ValueFault Word :=
  match Numeral.word? value with
  | some address => .ok address
  | none => .error (.startAddress value)

/-- The label in a value: a name, which must not be blank, and an address behind the first equals
sign. -/
def readLabel (value : Text) : Except ValueFault Symbol :=
  match Text.cut '=' value with
  | (_, none) => .error (.definition value)
  | (name, some address) =>
    let name := Text.trim name
    if name.isEmpty then .error (.definition value)
    else
      match Numeral.word? address with
      | some address => .ok ⟨name, address⟩
      | none => .error (.labelAddress value)

/-- Adds the label in the value of a parameter, or gives it a new address. -/
def addLabel (symbols : SymbolTable) (value : Text) : Except ValueFault SymbolTable :=
  (readLabel value).map fun symbol => symbols.assign symbol.name symbol.address

/-- Reads all values of a parameter into a request. -/
def readParameter (files : FileSystem) (words : Words) (request : Request) :
    Parameter → Except ValueFault Request
  | .input => do
    let input ← (words.value? .input).mapM (readPath files .input)
    return { request with input }
  | .table => do
    let table ← (words.value? .table).mapM (readPath files .table)
    return { request with table }
  | .pc => do
    let start ← (words.value? .pc).mapM readStart
    return { request with start }
  | .symbol => do
    let symbols ← (words.values .symbol).foldlM addLabel request.symbols
    return { request with symbols }

/-- The request before the values of parameters are read. -/
def ofFlags (words : Words) : Request where
  statements := words.statements
  variant := (words.flags.filterMap Flag.variant?).getLast?
  addresses := words.flags.contains .addresses
  list := words.flags.contains .list
  verbose := words.flags.contains .verbose

/-- Reads the values of all parameters, in the order in which the parameters first appear. -/
def ofWords (files : FileSystem) (words : Words) : Except ValueFault Request :=
  words.parameters.foldlM (readParameter files words) (ofFlags words)

end Request

namespace Command

/-- The first question that is asked comes before everything else. -/
def ofWords (files : FileSystem) (words : Words) : Except ValueFault Command :=
  match words.flags.findSome? Flag.question? with
  | some command => .ok command
  | none => (Request.ofWords files words).map .expand

end Command

end PseudoAsm.CommandLine
