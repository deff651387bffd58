import PseudoAsm.Numeral
import PseudoAsm.Proofs.Digits
import PseudoAsm.Proofs.Text.Plain

/-!
# Decimal text reads back

Before a statement is expanded, the labels among its operands are replaced by their addresses in
decimal, and the markers of a template read these operands again. This file shows that nothing is
lost on the way: the decimal text of a signed word is a numeral that spells this word.
-/

namespace PseudoAsm

theorem splitSign_ofNat (number : Nat) :
    splitSign (Text.ofNat number) = (false, Text.ofNat number) := by
  have digits : ∀ c ∈ Text.ofNat number, c.isDigit = true := fun _ => Text.isDigit_of_mem_ofNat
  unfold splitSign
  split
  · next rest equal => exact absurd (digits '-' (by simp [equal])) (by decide)
  · next rest equal => exact absurd (digits '+' (by simp [equal])) (by decide)
  · rfl

theorem splitSign_ofInt (value : Int) :
    splitSign (Text.ofInt value) = (decide (value < 0), Text.ofNat value.natAbs) := by
  cases value with
  | ofNat number =>
      have notNegative : ¬ Int.ofNat number < 0 := Int.not_lt.2 (Int.natCast_nonneg number)
      rw [decide_eq_false notNegative]
      exact splitSign_ofNat number
  | negSucc number => simp [Text.ofInt, splitSign, Int.negSucc_lt_zero]

theorem Radix.ofText_ofNat (number : Nat) :
    Radix.ofText (Text.ofNat number) = (.decimal, Text.ofNat number) := by
  have digits : ∀ c ∈ Text.ofNat number, c.isDigit = true := fun _ => Text.isDigit_of_mem_ofNat
  unfold Radix.ofText
  split
  · next rest equal => exact absurd (digits 'x' (by simp [equal])) (by decide)
  · next rest equal => exact absurd (digits 'X' (by simp [equal])) (by decide)
  · next rest equal => exact absurd (digits 'b' (by simp [equal])) (by decide)
  · next rest equal => exact absurd (digits 'B' (by simp [equal])) (by decide)
  · rfl

theorem signed_natAbs (value : Int) : signed (decide (value < 0)) value.natAbs = value := by
  simp only [signed, decide_eq_true_eq]
  split <;> omega

namespace Numeral

/-- The decimal text of an integer is read back as this integer. -/
theorem read?_ofInt (value : Int) :
    ∃ numeral, read? (Text.ofInt value) = some numeral ∧ numeral.radix = .decimal ∧
      numeral.digits.length = (Text.ofNat value.natAbs).length ∧ numeral.value = value := by
  rcases Digits.read?_toDigits (show 1 < 10 by decide) (by decide) value.natAbs with
    ⟨digits, read, length, spelt⟩
  have readText : Digits.read? 10 (Text.ofNat value.natAbs) = some digits := read
  refine ⟨⟨decide (value < 0), .decimal, digits⟩, ?_, rfl, length, ?_⟩
  · simp only [read?, Text.trim_eq_self (Text.isPlain_ofInt value).isWord, splitSign_ofInt,
      Radix.ofText_ofNat, Radix.base, readText, Option.map_some]
  · simp only [Numeral.value, magnitude, Radix.base, spelt, signed_natAbs]

theorem word?_ofInt {value : Int} (lower : -2 ^ 31 ≤ value) (upper : value < 2 ^ 31) :
    word? (Text.ofInt value) = some (Word.ofInt value) := by
  rcases read?_ofInt value with ⟨numeral, read, decimal, length, spelt⟩
  have short : (Text.ofNat value.natAbs).length ≤ 10 :=
    Nat.toDigits_length 10 value.natAbs 10 (by decide) (by omega)
  have withinLimit : ¬ Digits.decimalLimit < numeral.digits.length := by
    simp only [Digits.decimalLimit]
    omega
  have readsAs : numeral.word = .ok (Word.ofInt value) := by
    simp only [word, decimal, spelt]
    rw [if_neg withinLimit, if_pos ⟨lower, upper⟩]
  simp only [word?, readWord, read, readsAs, Except.toOption]

/-- The decimal text of a word, taken as a signed number, spells the word. -/
theorem word?_ofInt_toInt (word : Word) : word? (Text.ofInt word.toInt) = some word := by
  have lower := BitVec.le_toInt word
  have upper := BitVec.toInt_lt (x := word)
  rw [word?_ofInt (by simpa using lower) (by simpa using upper), Word.ofInt, BitVec.ofInt_toInt]

end Numeral

end PseudoAsm
