import PseudoAsm.Text.Basic

/-!
# Digits

What integer literals have in common: a sign, digits in a base of at most sixteen, and the number
that digits stand for.
-/

namespace PseudoAsm

/-- Separates a sign from the text it stands before, and tells whether it is a minus sign. -/
def splitSign : Text → Bool × Text
  | '-' :: rest => (true, rest)
  | '+' :: rest => (false, rest)
  | text => (false, text)

/-- The integer with the given magnitude and sign. -/
def signed (negative : Bool) (magnitude : Nat) : Int :=
  if negative then -magnitude else magnitude

namespace Digits

/-- Value of a digit or letter, before the base is taken into account. -/
def value? (c : Char) : Option Nat :=
  if '0' ≤ c ∧ c ≤ '9' then some (c.toNat - '0'.toNat)
  else if 'a' ≤ c ∧ c ≤ 'f' then some (c.toNat - 'a'.toNat + 10)
  else if 'A' ≤ c ∧ c ≤ 'F' then some (c.toNat - 'A'.toNat + 10)
  else none

/-- Value of a digit in a base. -/
def digit? (base : Nat) (c : Char) : Option Nat :=
  (value? c).filter (· < base)

/-- The values of a text that consists of digits and has at least one. -/
def read? (base : Nat) (text : Text) : Option (List Nat) :=
  if text.isEmpty then none else text.mapM (digit? base)

/-- The number that digits stand for, the most significant digit first. -/
def number (base : Nat) (digits : List Nat) : Nat :=
  digits.foldl (fun magnitude digit => magnitude * base + digit) 0

/-- The longest decimal text that is converted to a number. -/
def decimalLimit : Nat := 4300

end Digits

end PseudoAsm
