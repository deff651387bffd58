import PseudoAsm.Text.Basic

/-!
# Switches

A switch is a word of the command line that says how to work. It is a parameter, which takes a
value, or a flag, which takes none. Each switch has a long name, and most have a letter too.
-/

namespace PseudoAsm.CommandLine

/-- A switch that takes a value. -/
inductive Parameter where
  /-- The file with a listing. -/
  | input
  /-- The address of the first statement. -/
  | pc
  /-- A label with its address. -/
  | symbol
  /-- The file with the table. -/
  | table
  deriving DecidableEq, Repr

/-- A switch that takes no value. -/
inductive Flag where
  | compact
  | noCompact
  | addresses
  | list
  | verbose
  | version
  | help
  deriving DecidableEq, Repr

/-- A parameter or a flag. -/
inductive Switch where
  | parameter (parameter : Parameter)
  | flag (flag : Flag)
  deriving DecidableEq, Repr

namespace Switch

/-- The switches with their long names. -/
def named : List (Text × Switch) :=
  [("--input".toList, .parameter .input), ("--pc".toList, .parameter .pc),
    ("--symbol".toList, .parameter .symbol), ("--table".toList, .parameter .table),
    ("--compact".toList, .flag .compact), ("--no-compact".toList, .flag .noCompact),
    ("--addresses".toList, .flag .addresses), ("--list".toList, .flag .list),
    ("--verbose".toList, .flag .verbose), ("--version".toList, .flag .version),
    ("--help".toList, .flag .help)]

/-- The long names of all switches. -/
def names : List Text :=
  named.map Prod.fst

/-- The switch with a long name. -/
def ofName? (name : Text) : Option Switch :=
  named.lookup name

/-- The switch with a letter. -/
def ofLetter? : Char → Option Switch
  | 'i' => some (.parameter .input)
  | 'S' => some (.parameter .symbol)
  | 't' => some (.parameter .table)
  | 'c' => some (.flag .compact)
  | 'a' => some (.flag .addresses)
  | 'l' => some (.flag .list)
  | 'v' => some (.flag .verbose)
  | _ => none

/-- The spellings of each switch with what it does, in the lines that it takes. -/
def explained : List (String × List String) :=
  [("-i, --input FILE", ["Expand every statement of a source listing"]),
    ("--pc TEXT",
      ["Address of the first statement (default:", "$PSEXPAND_TEXT_BASE or 0x00400000)"]),
    ("-S, --symbol TEXT", ["Define label (format: NAME=ADDRESS, can be", "repeated)"]),
    ("-t, --table FILE", ["Pseudo-op table file (default: built-in RV32I", "table)"]),
    ("-c, --compact / --no-compact", ["Use compact translations where available"]),
    ("-a, --addresses", ["Prefix each generated statement with its", "address"]),
    ("-l, --list", ["List the pseudo-instruction table and exit"]),
    ("-v, --verbose", ["Verbose output"]),
    ("--version", ["Show the version and exit."]),
    ("--help", ["Show this message and exit."])]

/-- A line of help: the spellings of a switch, or nothing, and text in a column of its own. -/
def helpLine (left right : String) : Text :=
  "  ".toList ++ List.rightpad 30 ' ' left.toList ++ right.toList

/-- The lines of help on a switch. -/
def helpLines (spellings : String) : List String → List Text
  | [] => [helpLine spellings ""]
  | first :: later => helpLine spellings first :: later.map (helpLine "")

end Switch

/-- The ways to write a parameter, as messages show them. -/
def Parameter.spellings : Parameter → Text
  | .input => "'-i' / '--input'".toList
  | .pc => "'--pc'".toList
  | .symbol => "'-S' / '--symbol'".toList
  | .table => "'-t' / '--table'".toList

/-- A switch as it is given, a parameter with its value. -/
inductive GivenSwitch where
  | parameter (parameter : Parameter) (value : Text)
  | flag (flag : Flag)
  deriving DecidableEq, Repr

namespace GivenSwitch

/-- The flag that is given, if it is one. -/
def flag? : GivenSwitch → Option Flag
  | .flag given => some given
  | .parameter _ _ => none

/-- The parameter that is given with its value, if it is one. -/
def parameter? : GivenSwitch → Option (Parameter × Text)
  | .flag _ => none
  | .parameter given value => some (given, value)

end GivenSwitch

end PseudoAsm.CommandLine
