import PseudoAsm.Operand
import PseudoAsm.Proofs.Text.Plain

/-!
# Registers are no numerals

Operands are told apart by their texts: registers first, then numerals, and what is left is a label.
No text is a register and a numeral at once, since registers start with a letter or a dollar sign.
Hence a text that spells a word is an immediate with this value, however it is spelt.
-/

namespace PseudoAsm

namespace Numeral

/-- A numeral starts with a blank, a sign or a digit. -/
theorem word?_cons_eq_none {c : Char} (solid : Text.isBlank c = false) (minus : c ≠ '-')
    (plus : c ≠ '+') (noDigit : Digits.digit? 10 c = none) (rest : Text) :
    word? (c :: rest) = none := by
  rcases Text.exists_trim_eq_cons solid rest with ⟨trimmed, trim⟩
  have unsigned : splitSign (c :: trimmed) = (false, c :: trimmed) := by
    simp [splitSign, minus, plus]
  have decimal : Radix.ofText (c :: trimmed) = (.decimal, c :: trimmed) := by
    have notZero : c ≠ '0' := by
      rintro rfl
      exact absurd noDigit (by decide)
    simp [Radix.ofText, notZero]
  have unread : read? (c :: rest) = none := by
    simp [read?, trim, unsigned, decimal, Digits.read?, Radix.base, noDigit]
  simp [word?, readWord, unread, Except.toOption]

end Numeral

namespace Operand

variable {text : Text}

theorem eq_or_eq_append_dropLineFeed (text : Text) :
    text = dropLineFeed text ∨ text = dropLineFeed text ++ ['\n'] := by
  unfold dropLineFeed
  split
  · next last =>
      right
      rw [beq_iff_eq, List.getLast?_eq_some_iff] at last
      rcases last with ⟨before, rfl⟩
      simp
  · exact .inl rfl

/-- The characters that the names of registers start with. -/
def registerInitials : Text := "$xzrsgtfa".toList

theorem exists_cons_of_isRegisterName (register : isRegisterName text = true) :
    ∃ c rest, text = c :: rest ∧ c ∈ registerInitials := by
  unfold isRegisterName at register
  split at register
  · next name => exact ⟨'$', name, rfl, by decide⟩
  · rw [List.contains_iff_mem] at register
    have initials : ∀ name ∈ registerNames, name.head?.any registerInitials.contains = true := by
      decide
    rcases (Option.any_eq_true _ _).1 (initials _ register) with ⟨c, head, member⟩
    rw [List.head?_eq_some_iff] at head
    rcases head with ⟨rest, equal⟩
    exact ⟨c, rest, equal, List.contains_iff_mem.1 member⟩

/-- A register starts with one of a few characters. -/
theorem exists_cons_of_isRegister (register : isRegister text = true) :
    ∃ c rest, text = c :: rest ∧ c ∈ registerInitials := by
  rcases exists_cons_of_isRegisterName register with ⟨c, rest, name, member⟩
  rcases eq_or_eq_append_dropLineFeed text with same | fed
  · exact ⟨c, rest, by rw [same, name], member⟩
  · exact ⟨c, rest ++ ['\n'], by rw [fed, name, List.cons_append], member⟩

theorem isPlain_of_isRegisterName (register : isRegisterName text = true) : Text.IsPlain text := by
  unfold isRegisterName at register
  split at register
  · next name =>
      simp only [Bool.and_eq_true, List.all_eq_true] at register
      refine ⟨by simp, ?_⟩
      intro c member
      rcases List.mem_cons.1 member with rfl | inName
      · decide
      · exact Text.isPlainCharacter_of_isWordCharacter (register.2 c inName)
  · rw [List.contains_iff_mem] at register
    have plain : ∀ name ∈ registerNames,
        name ≠ [] ∧ ∀ c ∈ name, Text.isPlainCharacter c = true := by
      decide +kernel
    exact plain _ register

/-- A register on a line is a plain word, since no word ends with a line feed. -/
theorem isPlain_of_isRegister (register : isRegister text = true) (isWord : Text.IsWord text) :
    Text.IsPlain text := by
  rcases eq_or_eq_append_dropLineFeed text with same | fed
  · rw [same]
    exact isPlain_of_isRegisterName register
  · have lineFeed : '\n' ∈ text := by
      rw [fed]
      simp
    exact absurd (isWord.2 _ lineFeed) (by decide)

/-- No register is a numeral. -/
theorem word?_eq_none_of_isRegister (register : isRegister text = true) :
    Numeral.word? text = none := by
  rcases exists_cons_of_isRegister register with ⟨c, rest, rfl, member⟩
  have noNumeral : ∀ c ∈ registerInitials, Text.isBlank c = false ∧ c ≠ '-' ∧ c ≠ '+' ∧
      Digits.digit? 10 c = none := by
    decide
  rcases noNumeral c member with ⟨solid, minus, plus, noDigit⟩
  exact Numeral.word?_cons_eq_none solid minus plus noDigit rest

theorem isRegister_of_shape_eq (register : shape text = .register) : isRegister text = true := by
  unfold shape at register
  split at register
  · cases register
  · split at register
    · assumption
    · split at register
      · cases register
      · cases register

theorem word?_eq_none_of_isDelimiter (delimiter : isDelimiter text = true) :
    Numeral.word? text = none := by
  have parenthesis : text = ['('] ∨ text = [')'] := by
    simpa [isDelimiter] using delimiter
  rcases parenthesis with rfl | rfl
  · rfl
  · rfl

/-- The shapes before an immediate never hide a numeral. -/
theorem shape_eq_immediate_iff {value : Word} :
    shape text = .immediate value ↔ Numeral.word? text = some value := by
  unfold shape
  split
  · next delimiter => simp [word?_eq_none_of_isDelimiter delimiter]
  · split
    · next register => simp [word?_eq_none_of_isRegister register]
    · split
      · next spelt => simp [spelt]
      · next unspelt => simp [unspelt]

end Operand

end PseudoAsm
