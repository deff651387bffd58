import Mathlib.Data.Int.ModEq
import PseudoAsm.Word

/-!
# The fields of a word

The fields of a word are a quotient and a remainder by 4096, both rounded to the nearest: adding
2048 to the word moves the remainders of the low field from the range below 2048 to the one below
4096. They make up the word again, and each one is in the range of the instruction that carries it.
No other fields do so, since the low field alone decides the remainder; so integers have the same
fields exactly when they are the same word.
-/

namespace PseudoAsm

namespace Word

theorem toInt_ofInt (value : Int) : (ofInt value).toInt = value.bmod (2 ^ 32) :=
  BitVec.toInt_ofInt value

theorem toInt_ofInt_modEq (value : Int) : (ofInt value).toInt ≡ value [ZMOD 2 ^ 32] := by
  rw [toInt_ofInt]
  exact Int.bmod_emod

theorem toInt_sub_modEq (left right : Word) :
    (left - right).toInt ≡ left.toInt - right.toInt [ZMOD 2 ^ 32] := by
  rw [BitVec.toInt_sub]
  exact Int.bmod_emod

theorem toInt_sub_ofInt (word : Word) (value : Int) :
    (word - ofInt value).toInt = (word.toInt - value).bmod (2 ^ 32) := by
  rw [BitVec.toInt_sub, toInt_ofInt, Int.sub_bmod_bmod]

/-- Integers make the same word exactly if they are congruent. -/
theorem ofInt_eq_ofInt_iff (left right : Int) :
    ofInt left = ofInt right ↔ left ≡ right [ZMOD 2 ^ 32] := by
  constructor
  · intro same
    calc
      left ≡ (ofInt left).toInt [ZMOD 2 ^ 32] := (toInt_ofInt_modEq left).symm
      _ = (ofInt right).toInt := by rw [same]
      _ ≡ right [ZMOD 2 ^ 32] := toInt_ofInt_modEq right
  · intro congruent
    apply BitVec.eq_of_toInt_eq
    rw [toInt_ofInt, toInt_ofInt, ← Int.emod_bmod left, ← Int.emod_bmod right]
    exact congrArg (Int.bmod · (2 ^ 32)) congruent

end Word

namespace Split

/-- Bit 11 of a word says that the word is in the upper half of its 4096 neighbours. -/
theorem getLsbD_eleven_iff (word : Word) :
    word.getLsbD 11 = true ↔ 2048 ≤ word.toInt % 4096 := by
  rw [← BitVec.testBit_toNat, Nat.testBit_eq_decide_div_mod_eq, decide_eq_true_eq,
    BitVec.toInt_eq_toNat_cond]
  have bound := word.isLt
  split <;> omega

/-- The high field counts the multiples of 4096 in a word, rounded to the nearest one, up at the
middle. -/
theorem high_ofWord (word : Word) : (ofWord word).high = (word.toInt + 2048) / 4096 := by
  have bit := getLsbD_eleven_iff word
  simp only [ofWord, BitVec.toInt_sshiftRight, Int.shiftRight_eq_div_pow]
  split
  · next set =>
      have upper := bit.1 set
      omega
  · next clear =>
      have lower : ¬ 2048 ≤ word.toInt % 4096 := fun upper => clear (bit.2 upper)
      omega

/-- The low field is what is left of the word, on both sides of zero. -/
theorem low_ofWord (word : Word) :
    (ofWord word).low = (word.toInt + 2048) % 4096 - 2048 := by
  have bound := word.isLt
  change (word.setWidth 12).toInt = _
  rw [BitVec.toInt_setWidth, Int.bmod_def, BitVec.toInt_eq_toNat_cond]
  split <;> split <;> omega

/-- The fields make up the word that they are taken from. -/
theorem recombine_ofWord (word : Word) : (ofWord word).recombine = word.toInt := by
  rw [recombine, high_ofWord, low_ofWord]
  omega

theorem low_ofWord_bounds (word : Word) :
    -2048 ≤ (ofWord word).low ∧ (ofWord word).low ≤ 2047 := by
  rw [low_ofWord]
  omega

/-- A word that fits the low field is its own low field. -/
theorem low_ofWord_eq_toInt {word : Word} (lower : -2048 ≤ word.toInt) (upper : word.toInt ≤ 2047) :
    (ofWord word).low = word.toInt := by
  rw [low_ofWord]
  omega

theorem high_ofWord_bounds (word : Word) :
    -524288 ≤ (ofWord word).high ∧ (ofWord word).high ≤ 524288 := by
  have lower := BitVec.le_toInt word
  have upper := BitVec.toInt_lt (x := word)
  rw [high_ofWord]
  omega

/-- No other fields make up the word with a low field in its range. -/
theorem eq_ofWord_iff {split : Split} {word : Word} :
    split = ofWord word ↔
      -2048 ≤ split.low ∧ split.low ≤ 2047 ∧ 4096 * split.high + split.low = word.toInt := by
  constructor
  · rintro rfl
    have value := recombine_ofWord word
    rw [recombine, Int.mul_comm] at value
    exact ⟨(low_ofWord_bounds word).1, (low_ofWord_bounds word).2, value⟩
  · rintro ⟨lower, upper, value⟩
    -- Adding 2048 makes the low field a remainder, so the high field is the quotient.
    have high : split.high = (ofWord word).high := by
      rw [high_ofWord]
      omega
    have low : split.low = (ofWord word).low := by
      rw [low_ofWord]
      omega
    rcases split with ⟨_, _⟩
    cases high
    cases low
    rfl

/-- No two words have the same fields. -/
theorem ofWord_inj {left right : Word} : ofWord left = ofWord right ↔ left = right := by
  constructor
  · intro same
    apply BitVec.eq_of_toInt_eq
    rw [← recombine_ofWord, ← recombine_ofWord, same]
  · rintro rfl
    rfl

/-- From the program counter, the fields of the distance lead to the target. -/
theorem recombine_relative_modEq (target : Word) (pc : Int) :
    pc + (relative target pc).recombine ≡ target.toInt [ZMOD 2 ^ 32] := by
  have distance : (relative target pc).recombine ≡ target.toInt - pc [ZMOD 2 ^ 32] := by
    rw [relative, recombine_ofWord]
    exact (Word.toInt_sub_modEq _ _).trans ((Int.ModEq.refl _).sub (Word.toInt_ofInt_modEq pc))
  calc
    pc + (relative target pc).recombine ≡ pc + (target.toInt - pc) [ZMOD 2 ^ 32] :=
      distance.add_left pc
    _ = target.toInt := by omega

theorem ofInt_add_recombine_relative (target : Word) (pc : Int) :
    Word.ofInt (pc + (relative target pc).recombine) = target := by
  have reached := (Word.ofInt_eq_ofInt_iff _ _).2 (recombine_relative_modEq target pc)
  rwa [Word.ofInt, Word.ofInt, BitVec.ofInt_toInt] at reached

/-- The fields of an integer are its only decomposition into a high field and a low field in range;
they are the same for congruent integers only, and relative to a pc they lead back to the integer.
-/
theorem fields_decompose_uniquely (value : Int) :
    (∀ split : Split, split = ofWord (Word.ofInt value) ↔
      -2048 ≤ split.low ∧ split.low ≤ 2047 ∧
        4096 * split.high + split.low = (Word.ofInt value).toInt) ∧
    (-524288 ≤ (ofWord (Word.ofInt value)).high ∧ (ofWord (Word.ofInt value)).high ≤ 524288) ∧
    (∀ other : Int, ofWord (Word.ofInt value) = ofWord (Word.ofInt other) ↔
      value ≡ other [ZMOD 2 ^ 32]) ∧
    ∀ pc : Int, (Word.ofInt (pc + (relative (Word.ofInt value) pc).recombine)).toInt =
      (Word.ofInt value).toInt := by
  refine ⟨fun split => eq_ofWord_iff, high_ofWord_bounds _, fun other => ?_, fun pc => ?_⟩
  · rw [ofWord_inj, Word.ofInt_eq_ofInt_iff]
  · rw [ofInt_add_recombine_relative]

end Split

end PseudoAsm
