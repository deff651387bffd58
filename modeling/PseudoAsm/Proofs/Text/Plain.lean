import PseudoAsm.Proofs.Text.Words
import PseudoAsm.Text.CharacterSet

/-!
# Plain characters

Registers, decimal numerals, markers and the labels that lines define are written with letters and
digits of any script and with a few signs. None of these characters means anything to a line: they
are no blanks, and they neither part operands nor end a label definition nor start a comment.
-/

namespace PseudoAsm.Text

variable {c : Char} {text : Text}

/-- Whether a character is a letter, a digit or one of the signs of names and numerals. -/
def isPlainCharacter (c : Char) : Bool :=
  isWordCharacter c || c == '$' || c == '.' || c == '-'

/-- A word of plain characters only. -/
def IsPlain (text : Text) : Prop :=
  text ≠ [] ∧ ∀ c ∈ text, isPlainCharacter c = true

/-- The code points of all blanks. -/
def blankCodes : List Nat :=
  List.range' 0x09 5 ++ List.range' 0x1C 5 ++ [0x85, 0xA0, 0x1680] ++ List.range' 0x2000 11 ++
    [0x2028, 0x2029, 0x202F, 0x205F, 0x3000]

theorem mem_blankCodes_of_isBlank (blank : isBlank c = true) : c.toNat ∈ blankCodes := by
  simp only [isBlank, Bool.or_eq_true, Bool.and_eq_true, decide_eq_true_eq, beq_iff_eq] at blank
  simp only [blankCodes, List.mem_append, List.mem_range'_1, List.mem_cons, List.not_mem_nil,
    or_false]
  omega

theorem isAlphanumeric_eq_false_of_isBlank (blank : isBlank c = true) :
    isAlphanumeric c = false := by
  have noneOfThem : ∀ code ∈ blankCodes, inRanges code alphanumericRanges = false := by
    decide +kernel
  exact noneOfThem _ (mem_blankCodes_of_isBlank blank)

/-- The code points of the basic Latin letters and digits. -/
def latinCodes : List Nat :=
  List.range' 48 10 ++ List.range' 65 26 ++ List.range' 97 26

theorem mem_latinCodes_of_isAlphanum (latin : c.isAlphanum = true) : c.toNat ∈ latinCodes := by
  delta Char.isAlphanum Char.isAlpha Char.isUpper Char.isLower Char.isDigit at latin
  simp only [Bool.or_eq_true, Bool.and_eq_true, decide_eq_true_eq, ge_iff_le,
    UInt32.le_iff_toNat_le] at latin
  simp only [latinCodes, List.mem_append, List.mem_range'_1]
  change ((65 ≤ c.toNat ∧ c.toNat ≤ 90) ∨ (97 ≤ c.toNat ∧ c.toNat ≤ 122)) ∨
    (48 ≤ c.toNat ∧ c.toNat ≤ 57) at latin
  omega

theorem isWordCharacter_of_isAlphanum (latin : c.isAlphanum = true) :
    isWordCharacter c = true := by
  have allOfThem : ∀ code ∈ latinCodes, inRanges code alphanumericRanges = true := by
    decide +kernel
  rw [isWordCharacter, isAlphanumeric, allOfThem _ (mem_latinCodes_of_isAlphanum latin),
    Bool.or_true]

/-- Names are made of plain characters. -/
theorem isPlainCharacter_of_isWordCharacter (word : isWordCharacter c = true) :
    isPlainCharacter c = true := by
  simp [isPlainCharacter, word]

/-- Plain characters separate nothing. -/
theorem isBlank_eq_false_of_isPlainCharacter (plain : isPlainCharacter c = true) :
    isBlank c = false := by
  rw [Bool.eq_false_iff]
  intro blank
  simp only [isPlainCharacter, isWordCharacter, isAlphanumeric_eq_false_of_isBlank blank,
    Bool.false_eq_true, Bool.or_eq_true, beq_iff_eq, or_false] at plain
  rcases plain with ((rfl | rfl) | rfl) | rfl
  all_goals exact absurd blank (by decide)

theorem IsPlain.isWord (plain : IsPlain text) : IsWord text :=
  ⟨plain.1, fun c member => isBlank_eq_false_of_isPlainCharacter (plain.2 c member)⟩

theorem IsPlain.not_mem (plain : IsPlain text) (sign : isPlainCharacter c = false) : c ∉ text :=
  fun member => Bool.false_ne_true (sign.symm.trans (plain.2 c member))

theorem isDigit_of_mem_ofNat {number : Nat} (member : c ∈ ofNat number) : c.isDigit = true :=
  Nat.isDigit_of_mem_toDigits (by decide) (by decide) member

theorem isPlain_ofNat (number : Nat) : IsPlain (ofNat number) := by
  refine ⟨Nat.toDigits_ne_nil, ?_⟩
  intro c member
  have digit := isDigit_of_mem_ofNat member
  exact isPlainCharacter_of_isWordCharacter
    (isWordCharacter_of_isAlphanum (by simp [Char.isAlphanum, digit]))

/-- Decimal numbers are plain words. -/
theorem isPlain_ofInt (value : Int) : IsPlain (ofInt value) := by
  cases value with
  | ofNat number => exact isPlain_ofNat number
  | negSucc number =>
      refine ⟨by simp [ofInt], ?_⟩
      intro c member
      rcases List.mem_cons.1 member with rfl | inDigits
      · decide
      · exact (isPlain_ofNat _).2 c inDigits

end PseudoAsm.Text
