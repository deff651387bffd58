import Mathlib.Data.Nat.Digits.Defs
import Mathlib.Tactic.IntervalCases
import PseudoAsm.Digits

/-!
# Digits read back

The digits that a number is written with, in any base up to sixteen, read back as the number. Zeros
in front of them do not count. Letters among the digits are small ones.
-/

namespace PseudoAsm.Digits

variable {base : Nat}

theorem digit?_digitChar {digit : Nat} (isDigit : digit < base) (known : base ≤ 16) :
    digit? base (Nat.digitChar digit) = some digit := by
  have small : digit < 16 := by omega
  have value : value? (Nat.digitChar digit) = some digit := by
    interval_cases digit <;> rfl
  simp [digit?, value, isDigit]

/-- The digits are read one by one, so the induction takes the last digit off the number. -/
theorem mapM_digit?_toDigits (atLeastTwo : 1 < base) (known : base ≤ 16) (value : Nat) :
    ∃ digits, (Nat.toDigits base value).mapM (digit? base) = some digits ∧
      digits.length = (Nat.toDigits base value).length ∧ number base digits = value := by
  induction value using Nat.strongRecOn with
  | ind value ih =>
      rcases Nat.lt_or_ge value base with small | large
      · refine ⟨[value], ?_, ?_, ?_⟩
        · simp [Nat.toDigits_of_lt_base small, digit?_digitChar small known]
        · simp [Nat.toDigits_of_lt_base small]
        · simp [number]
      · have shorter : value / base < value := Nat.div_lt_self (by omega) atLeastTwo
        rcases ih (value / base) shorter with ⟨digits, read, length, spelt⟩
        have lastSmall : value % base < base := Nat.mod_lt value (by omega)
        refine ⟨digits ++ [value % base], ?_, ?_, ?_⟩
        · simp [Nat.toDigits_of_base_le atLeastTwo large, read, digit?_digitChar lastSmall known]
        · simp [Nat.toDigits_of_base_le atLeastTwo large, length]
        · simp only [number, List.foldl_append, List.foldl_cons, List.foldl_nil] at spelt ⊢
          rw [spelt, Nat.mul_comm]
          exact Nat.div_add_mod value base

/-- The digits of a number, written in a base, are read as this number. -/
theorem read?_toDigits (atLeastTwo : 1 < base) (known : base ≤ 16) (value : Nat) :
    ∃ digits, read? base (Nat.toDigits base value) = some digits ∧
      digits.length = (Nat.toDigits base value).length ∧ number base digits = value := by
  rcases mapM_digit?_toDigits atLeastTwo known value with ⟨digits, read, length, spelt⟩
  have nonempty : (Nat.toDigits base value).isEmpty = false := by
    simp [List.isEmpty_eq_false_iff, Nat.toDigits_ne_nil]
  exact ⟨digits, by simp [read?, nonempty, read], length, spelt⟩

@[simp]
theorem number_replicate_zero_append (count : Nat) (digits : List Nat) :
    number base (List.replicate count 0 ++ digits) = number base digits := by
  induction count with
  | zero => rfl
  | succ count ih => simpa [number, List.replicate_succ] using ih

/-- A number in hexadecimal is read back, however many zeros are in front. -/
theorem read?_hexadecimal (width value : Nat) :
    ∃ digits, read? 16 (Text.hexadecimal width value) = some digits ∧
      number 16 digits = value := by
  rcases mapM_digit?_toDigits (show 1 < 16 by decide) (by decide) value with
    ⟨digits, read, _, spelt⟩
  have zeros : ∀ count : Nat,
      (List.replicate count '0').mapM (digit? 16) = some (List.replicate count 0) := by
    intro count
    induction count with
    | zero => rfl
    | succ count ih => simp [List.replicate_succ, ih, show digit? 16 '0' = some 0 from rfl]
  refine ⟨List.replicate (width - (Nat.toDigits 16 value).length) 0 ++ digits, ?_, ?_⟩
  · simp [read?, Text.hexadecimal, List.leftpad, zeros, read]
  · rw [number_replicate_zero_append, spelt]

/-- A number that fits the width takes up exactly the width. -/
theorem length_hexadecimal {width value : Nat} (positive : 0 < width)
    (fits : value < 16 ^ width) : (Text.hexadecimal width value).length = width := by
  have short : (Nat.toDigits 16 value).length ≤ width :=
    Nat.toDigits_length 16 value width positive fits
  simp [Text.hexadecimal, short]

/-- The digits of hexadecimal numbers, with small letters. -/
def hexadecimalDigits : Text :=
  "0123456789abcdef".toList

theorem mem_hexadecimalDigits_of_mem_toDigits {value : Nat} {c : Char}
    (member : c ∈ Nat.toDigits 16 value) : c ∈ hexadecimalDigits := by
  induction value using Nat.strongRecOn generalizing c with
  | ind value ih =>
      have digitChar : ∀ digit < 16, Nat.digitChar digit ∈ hexadecimalDigits := by decide
      rcases Nat.lt_or_ge value 16 with small | large
      · rw [Nat.toDigits_of_lt_base small, List.mem_singleton] at member
        subst member
        exact digitChar value small
      · rw [Nat.toDigits_of_base_le (by decide) large, List.mem_append] at member
        rcases member with front | last
        · exact ih (value / 16) (by omega) front
        · rw [List.mem_singleton.1 last]
          exact digitChar _ (Nat.mod_lt value (by decide))

theorem mem_hexadecimalDigits_of_mem_hexadecimal {width value : Nat} {c : Char}
    (member : c ∈ Text.hexadecimal width value) : c ∈ hexadecimalDigits := by
  rw [Text.hexadecimal, List.leftpad, List.mem_append] at member
  rcases member with zero | digit
  · rw [List.eq_of_mem_replicate zero]
    decide
  · exact mem_hexadecimalDigits_of_mem_toDigits digit

end PseudoAsm.Digits
