import PseudoAsm.Digits
import PseudoAsm.Text.CharacterSet
import PseudoAsm.Text.Pieces

/-!
# Integer literals of settings

Settings spell integers of any size: a sign, then decimal digits, or hexadecimal, octal or binary
ones after `0x`, `0o` or `0b`. Single underscores may stand between digits and after the mark of
the base. A decimal literal that starts with a zero has no other digits than zeros. Digits of every
script may be used, and blanks other than the information separators may stand around.
-/

namespace PseudoAsm.IntegerLiteral

/-- Whether a character may stand before or after a literal. -/
def isPadding (c : Char) : Bool :=
  Text.isBlank c && !(0x1C ≤ c.toNat && c.toNat ≤ 0x1F)

/-- The text without its padding. -/
def unpad (text : Text) : Text :=
  ((text.dropWhile isPadding).reverse.dropWhile isPadding).reverse

/-- Writes the digits of every script as ASCII digits. -/
def normalize (text : Text) : Text :=
  text.map fun c =>
    match Text.decimalDigit? c with
    | some digit => Nat.digitChar digit
    | none => c

/-- The values of groups of digits with single underscores between them. -/
def groups? (base : Nat) (text : Text) : Option (List Nat) :=
  ((text.splitOn '_').mapM (Digits.read? base)).map List.flatten

/-- Leaves out the underscore that may follow the mark of a base. -/
def afterMark : Text → Text
  | '_' :: rest => rest
  | text => text

/-- The magnitude of a decimal literal. -/
def decimal? (text : Text) : Option Nat := do
  let digits ← groups? 10 text
  let magnitude := Digits.number 10 digits
  if Digits.decimalLimit < digits.length then none
  else if text.head? == some '0' && magnitude != 0 then none
  else some magnitude

/-- The magnitude of a literal without a sign. -/
def magnitude? (text : Text) : Option Nat :=
  let marked (base : Nat) (rest : Text) := (groups? base (afterMark rest)).map (Digits.number base)
  match text with
  | '0' :: 'x' :: rest => marked 16 rest
  | '0' :: 'X' :: rest => marked 16 rest
  | '0' :: 'o' :: rest => marked 8 rest
  | '0' :: 'O' :: rest => marked 8 rest
  | '0' :: 'b' :: rest => marked 2 rest
  | '0' :: 'B' :: rest => marked 2 rest
  | text => decimal? text

/-- The integer that a text spells. -/
def read? (text : Text) : Option Int :=
  let (negative, unsigned) := splitSign (normalize (unpad text))
  (magnitude? unsigned).map (signed negative)

end PseudoAsm.IntegerLiteral
