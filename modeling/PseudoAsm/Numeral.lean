import PseudoAsm.Digits
import PseudoAsm.Text.Display
import PseudoAsm.Text.Pieces
import PseudoAsm.Word

/-!
# Numerals

The integer literals of assembler operands: decimal, hexadecimal after `0x`, or binary after `0b`,
with an optional sign and blanks around. A decimal numeral is a number with a sign and has to lie
in the range of signed words. A hexadecimal or binary numeral is a bit pattern of at most 32 bits,
and a minus sign negates it modulo `2 ^ 32`.
-/

namespace PseudoAsm

/-- How the digits of a numeral are to be read. -/
inductive Radix where
  | decimal
  | hexadecimal
  | binary
  deriving DecidableEq, Repr

namespace Radix

/-- The number of digits of a radix. -/
def base : Radix → Nat
  | .decimal => 10
  | .hexadecimal => 16
  | .binary => 2

/-- Separates the mark of a radix from the digits after it. -/
def ofText : Text → Radix × Text
  | '0' :: 'x' :: rest => (.hexadecimal, rest)
  | '0' :: 'X' :: rest => (.hexadecimal, rest)
  | '0' :: 'b' :: rest => (.binary, rest)
  | '0' :: 'B' :: rest => (.binary, rest)
  | text => (.decimal, text)

end Radix

/-- An integer literal: its sign, its radix and the values of its digits. -/
structure Numeral where
  negative : Bool
  radix : Radix
  digits : List Nat
  deriving DecidableEq, Repr

namespace Numeral

/-- Why a text stands for no word. -/
inductive Fault where
  /-- The text is no numeral. -/
  | malformed
  /-- The numeral is decimal and has more digits than are converted. -/
  | tooManyDigits (count : Nat)
  /-- The numeral is decimal and lies outside the range of signed words. -/
  | outOfRange
  /-- The numeral is a bit pattern of more than 32 bits. -/
  | tooWide
  deriving DecidableEq, Repr

/-- The numeral that a text spells, between blanks. -/
def read? (text : Text) : Option Numeral :=
  let (negative, unsigned) := splitSign (Text.trim text)
  let (radix, digits) := Radix.ofText unsigned
  (Digits.read? radix.base digits).map fun digits => ⟨negative, radix, digits⟩

/-- The number that the digits stand for. -/
def magnitude (numeral : Numeral) : Nat :=
  Digits.number numeral.radix.base numeral.digits

/-- The number that the numeral stands for, with its sign. -/
def value (numeral : Numeral) : Int :=
  signed numeral.negative numeral.magnitude

/-- The word that a numeral denotes. A decimal numeral must not be too long, and its number must lie
in the range of signed words; of any other numeral the digits must fit a word, and a sign negates
it. -/
def word (numeral : Numeral) : Except Fault Word :=
  match numeral.radix with
  | .decimal =>
    if Digits.decimalLimit < numeral.digits.length then
      .error (.tooManyDigits numeral.digits.length)
    else if -0x80000000 ≤ numeral.value ∧ numeral.value < 0x80000000 then
      .ok (Word.ofInt numeral.value)
    else .error .outOfRange
  | _ =>
    if numeral.magnitude < 0x100000000 then .ok (Word.ofInt numeral.value) else .error .tooWide

/-- The word that a text spells, or why it spells none. -/
def readWord (text : Text) : Except Fault Word :=
  match read? text with
  | none => .error .malformed
  | some numeral => numeral.word

/-- The word that a text spells, if it spells one. -/
def word? (text : Text) : Option Word :=
  (readWord text).toOption

/-- The wording of a fault in the given text. -/
def Fault.message (text : Text) : Fault → Text
  | .malformed => "invalid integer literal: ".toList ++ Text.quoted text
  | .tooManyDigits count =>
    "Exceeds the limit (".toList ++ Text.ofNat Digits.decimalLimit ++
      " digits) for integer string conversion: value has ".toList ++ Text.ofNat count ++
      " digits; use sys.set_int_max_str_digits() to increase the limit".toList
  | .outOfRange => "integer literal out of 32-bit range: ".toList ++ Text.quoted text
  | .tooWide => "integer literal wider than 32 bits: ".toList ++ Text.quoted text

end Numeral

end PseudoAsm
