import PseudoAsm.Text.Display
import PseudoAsm.Word

/-!
# Notes

While it works, the expander notes what it does and what it leaves undone. Notes are data: each
result carries the notes that belong to it, in order, and only the outer layer writes them down.
-/

namespace PseudoAsm

/-- How much a note matters. -/
inductive Level where
  | debug
  | warning
  deriving DecidableEq, Repr

/-- Something worth noting. -/
inductive Note where
  /-- No labels are in scope to stand for an address. -/
  | noScope (address : Text)
  /-- No label in scope has the address. -/
  | noLabel (address : Text)
  /-- A marker stays because its operand is no numeral. -/
  | notNumeric (position : Nat) (operand marker : Text)
  /-- A form has no standard recipe. -/
  | noRecipe (usage : Text)
  /-- A statement was expanded. -/
  | expanded (words : List Text) (pc : Int) (count : Nat)
  /-- A statement of a listing is taken for a basic instruction. -/
  | passedThrough (words : List Text)
  /-- A table was read. -/
  | loaded (count : Nat) (file : Text)
  /-- A table is in use. -/
  | usingTable (forms mnemonics : Nat)
  /-- A setting is no integer. -/
  | ignoredTextBase (value : Text)
  deriving DecidableEq, Repr

namespace Note

/-- How much the note matters. -/
def level : Note → Level
  | .noRecipe _ | .ignoredTextBase _ => .warning
  | _ => .debug

/-- A table as its size is shown. -/
def tableSize (forms mnemonics : Nat) : Text :=
  "InstructionTable(".toList ++ Text.ofNat forms ++ " forms, ".toList ++
    Text.ofNat mnemonics ++ " mnemonics)".toList

/-- The wording of a note. -/
def message : Note → Text
  | .noScope address => "No symbol table to resolve address ".toList ++ Text.quoted address
  | .noLabel address => "No label found at address ".toList ++ Text.quoted address
  | .notNumeric position operand marker =>
    "Operand ".toList ++ Text.ofNat position ++ " (".toList ++ Text.quoted operand ++
      ") is not numeric; leaving ".toList ++ marker ++ " unsubstituted".toList
  | .noRecipe usage =>
    "Pseudo-instruction ".toList ++ Text.inApostrophes usage ++ " has no translation".toList
  | .expanded words pc count =>
    "Expanded ".toList ++ Text.inApostrophes (Text.join " " words) ++ " at ".toList ++
      (Word.ofInt pc).address ++ " into ".toList ++ Text.ofNat count ++ " statement(s)".toList
  | .passedThrough words =>
    "Passing ".toList ++ Text.inApostrophes (Text.join " " words) ++
      " through as a basic instruction".toList
  | .loaded count file =>
    "Loaded ".toList ++ Text.ofNat count ++ " pseudo-instruction(s) from ".toList ++ file
  | .usingTable forms mnemonics => "Using ".toList ++ tableSize forms mnemonics
  | .ignoredTextBase value =>
    "Ignoring invalid PSEXPAND_TEXT_BASE value ".toList ++ Text.quoted value

end Note

end PseudoAsm
