import PseudoAsm.Numeral
import PseudoAsm.Text.CharacterSet

/-!
# Operands

An operand of a statement is a delimiter, a register, an immediate or a label, and which of them it
is shows in its text. A form of a pseudo-instruction gives an example of each operand, and accepts
the operands of the same shape: any register for a register, any immediate for an immediate, but
only one of twelve bits where the example is of twelve bits, and a label or an address for a label.
-/

namespace PseudoAsm

/-- What kind of operand a text is. -/
inductive Shape where
  | delimiter
  | register
  | immediate (value : Word)
  | label
  deriving DecidableEq, Repr

namespace Operand

/-- A letter with the numbers below a bound after it. -/
def numbered (letter : Char) (bound : Nat) : List Text :=
  (List.range bound).map fun number => letter :: Text.ofNat number

/-- The names of registers without a dollar sign. -/
def registerNames : List Text :=
  numbered 'x' 32 ++ ["zero", "ra", "sp", "gp", "tp", "fp"].map String.toList ++
    numbered 't' 7 ++ numbered 's' 12 ++ numbered 'a' 8

/-- Whether a text is the name of a register, or any name after a dollar sign. -/
def isRegisterName : Text → Bool
  | '$' :: name => !name.isEmpty && name.all Text.isWordCharacter
  | text => registerNames.contains text

/-- The text without the line feed that it may end with. -/
def dropLineFeed (text : Text) : Text :=
  if text.getLast? == some '\n' then text.dropLast else text

/-- Whether a text names a register; a line feed after the name is let pass. -/
def isRegister (text : Text) : Bool :=
  isRegisterName (dropLineFeed text)

/-- Whether a text is a delimiter, which stands for itself. -/
def isDelimiter (text : Text) : Bool :=
  text == ['('] || text == [')']

/-- What kind of operand a text is. -/
def shape (text : Text) : Shape :=
  if isDelimiter text then .delimiter
  else if isRegister text then .register
  else
    match Numeral.word? text with
    | some value => .immediate value
    | none => .label

/-- Whether an integer fits the low field of a split. -/
def fitsLowField (value : Int) : Bool :=
  -2048 ≤ value && value < 2048

/-- Whether an operand fits where the example of an operand stands. -/
def accepts (sample operand : Text) : Bool :=
  match shape sample, shape operand with
  | .delimiter, _ => operand == sample
  | .register, .register => true
  | .immediate expected, .immediate given =>
    !fitsLowField expected.toInt || fitsLowField given.toInt
  | .label, .label => true
  | .label, .immediate _ => true
  | _, _ => false

end Operand

end PseudoAsm
