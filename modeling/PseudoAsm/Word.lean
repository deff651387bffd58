import PseudoAsm.Text.Basic

/-!
# Machine words and their split

A machine word has 32 bits. It is loaded by two instructions: one carries the high 20 bits, the
other adds a signed field of 12 bits. When the low field is negative the high field has to be one
larger, which is so exactly when bit 11 of the word is set.

Addresses are integers without bound; they become words where an instruction is made of them, so
all arithmetic on them is modulo `2 ^ 32`.
-/

namespace PseudoAsm

/-- A machine word. -/
abbrev Word := BitVec 32

namespace Word

/-- The word that is congruent to an integer modulo `2 ^ 32`. -/
def ofInt (value : Int) : Word :=
  BitVec.ofInt 32 value

/-- The word in eight hexadecimal digits, as addresses are shown. -/
def address (word : Word) : Text :=
  "0x".toList ++ Text.hexadecimal 8 word.toNat

end Word

/-- The two immediate fields that load one word. -/
structure Split where
  high : Int
  low : Int
  deriving DecidableEq, Repr

namespace Split

/-- The value that the two instructions make of the fields. -/
def recombine (split : Split) : Int :=
  split.high * 4096 + split.low

/-- The fields of a word: the low twelve bits with their sign, and the rest corrected for it. -/
def ofWord (word : Word) : Split where
  high := (word.sshiftRight 12).toInt + if word.getLsbD 11 then 1 else 0
  low := (word.setWidth 12).toInt

/-- The fields of the distance from a program counter to a target. -/
def relative (target : Word) (pc : Int) : Split :=
  ofWord (target - Word.ofInt pc)

end Split

end PseudoAsm
