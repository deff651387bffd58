import PseudoAsm.Proofs.Digits
import PseudoAsm.Word

/-!
# Addresses as they are shown

An address is an integer of any size, positive or negative. It is shown as the word that it stands
for: in eight hexadecimal digits with small letters, which spell the address modulo `2 ^ 32`.
-/

namespace PseudoAsm.Word

/-- A text is what is shown of an address. -/
structure Shows (digits : Text) (address : Int) : Prop where
  length : digits.length = 8
  letters : ∀ c ∈ digits, c ∈ Digits.hexadecimalDigits
  value : ∃ values, Digits.read? 16 digits = some values ∧
    (Digits.number 16 values : Int) = address % 2 ^ 32

theorem toNat_ofInt (address : Int) : ((ofInt address).toNat : Int) = address % 2 ^ 32 := by
  have nonnegative : 0 ≤ address % 2 ^ 32 := Int.emod_nonneg _ (by decide)
  rw [ofInt, BitVec.toNat_ofInt]
  exact Int.toNat_of_nonneg nonnegative

/-- Every address is shown by eight digits. -/
theorem exists_shows (address : Int) :
    ∃ digits, (ofInt address).address = "0x".toList ++ digits ∧ Shows digits address := by
  rcases Digits.read?_hexadecimal 8 (ofInt address).toNat with ⟨values, read, spelt⟩
  have fits : (ofInt address).toNat < 16 ^ 8 := (ofInt address).isLt
  refine ⟨Text.hexadecimal 8 (ofInt address).toNat, rfl, ?_, ?_, values, read, ?_⟩
  · exact Digits.length_hexadecimal (by decide) fits
  · intro c member
    exact Digits.mem_hexadecimalDigits_of_mem_hexadecimal member
  · rw [spelt, toNat_ofInt]

theorem Shows.congr {digits : Text} {address other : Int} (shows : Shows digits address)
    (same : address % 2 ^ 32 = other % 2 ^ 32) : Shows digits other where
  length := shows.length
  letters := shows.letters
  value := same ▸ shows.value

/-- Turns around the address space do not show. -/
theorem ofInt_add_turns (address turns : Int) :
    ofInt (address + 2 ^ 32 * turns) = ofInt address := by
  apply BitVec.eq_of_toInt_eq
  simp only [ofInt, BitVec.toInt_ofInt]
  exact Int.add_mul_bmod_self_left ..

end PseudoAsm.Word
