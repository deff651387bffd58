import PseudoAsm.Proofs.Statement.Readers

/-!
# The normal form of a statement

The tokens of a line can be written with single blanks between them, and they are read back from
that. Two facts make this so. A token holds neither a blank nor a comment sign, so the blanks that
are written part the tokens and nothing else. And an operand is a parenthesis or a text that nothing
cuts, so it is not taken apart a second time; only the mnemonic may hold commas and parentheses, and
what stands at its place is never cut.
-/

namespace PseudoAsm.Statement

/-- A text that an operand can be: a parenthesis or a text that nothing cuts. -/
def IsOperandToken (token : Text) : Prop :=
  token = ['('] ∨ token = [')'] ∨ IsOperand token

variable {line token : Text}

theorem IsOperandToken.isWord (isToken : IsOperandToken token) : Text.IsWord token := by
  rcases isToken with rfl | rfl | isOperand
  · exact ⟨by simp, by decide⟩
  · exact ⟨by simp, by decide⟩
  · exact isOperand.isWord

theorem IsOperandToken.splitOperands_eq (isToken : IsOperandToken token) :
    splitOperands token = [token] := by
  rcases isToken with rfl | rfl | isOperand
  · rfl
  · rfl
  · exact splitOperands_of_isOperand isOperand

theorem IsOperandToken.single_or_solid (isToken : IsOperandToken token) :
    token = ['('] ∨ token = [')'] ∨ ∀ c ∈ token, c ≠ ',' ∧ c ≠ '(' ∧ c ≠ ')' := by
  rcases isToken with rfl | rfl | isOperand
  · exact .inl rfl
  · exact .inr (.inl rfl)
  · right
    right
    intro c member
    have inside := isOperand.2 c member
    simp only [endsOperand, isSeparator, Bool.or_eq_false_iff, beq_eq_false_iff_ne] at inside
    exact ⟨inside.1.1.1, inside.1.2, inside.2⟩

theorem flatMap_splitOperands_eq_self {tokens : List Text}
    (areTokens : ∀ token ∈ tokens, IsOperandToken token) :
    tokens.flatMap splitOperands = tokens := by
  induction tokens with
  | nil => rfl
  | cons token tokens ih =>
      rw [List.flatMap_cons, (areTokens token List.mem_cons_self).splitOperands_eq,
        ih fun other member => areTokens other (List.mem_cons_of_mem _ member),
        List.singleton_append]

theorem not_mem_of_mem_words_code {word : Text} (member : word ∈ Text.words (code line)) :
    '#' ∉ word := by
  intro sign
  exact not_mem_code line ((Text.isWord_of_mem_words member).2 '#' sign)

/-- What a line is read as: nothing if there are only blanks before the comment, and otherwise a
mnemonic and operands, none of which holds a blank or a comment sign. -/
theorem tokenize_cases (line : Text) :
    ((∀ c ∈ code line, Text.isBlank c = true) ∧ tokenize line = []) ∨
    ∃ mnemonic operands, ¬ (∀ c ∈ code line, Text.isBlank c = true) ∧
      tokenize line = mnemonic :: operands ∧ IsSourceWord mnemonic ∧
      ∀ operand ∈ operands, IsOperandToken operand ∧ '#' ∉ operand := by
  rw [tokenize_eq_ofTextWords, ← Text.words_eq_nil_iff]
  cases split : Text.words (code line) with
  | nil => exact .inl ⟨rfl, rfl⟩
  | cons mnemonic later =>
      have isSourceWord : ∀ word ∈ mnemonic :: later, IsSourceWord word := by
        intro word member
        rw [← split] at member
        exact ⟨(Text.isWord_of_mem_words member).1, not_mem_of_mem_words_code member⟩
      right
      refine ⟨mnemonic, later.flatMap splitOperands, by simp, rfl,
        isSourceWord mnemonic List.mem_cons_self, ?_⟩
      intro operand member
      rcases List.mem_flatMap.1 member with ⟨word, wordMem, inWord⟩
      rcases isOperand_or_delimiter_of_mem_splitOperands inWord with ⟨isToken, inside⟩
      refine ⟨isToken, fun sign => ?_⟩
      exact (isSourceWord word (List.mem_cons_of_mem _ wordMem)).2 (inside '#' sign)

theorem isSourceWord_of_mem_tokenize (member : token ∈ tokenize line) : IsSourceWord token := by
  rcases tokenize_cases line with ⟨_, none⟩ | ⟨mnemonic, operands, _, tokens, isSourceWord, each⟩
  · rw [none] at member
    cases member
  · rw [tokens] at member
    rcases List.mem_cons.1 member with rfl | later
    · exact isSourceWord
    · exact ⟨(each token later).1.isWord, (each token later).2⟩

theorem isOperandToken_of_mem_tail (member : token ∈ (tokenize line).tail) :
    IsOperandToken token := by
  rcases tokenize_cases line with ⟨_, none⟩ | ⟨mnemonic, operands, _, tokens, _, each⟩
  · rw [none] at member
    cases member
  · rw [tokens, List.tail_cons] at member
    exact (each token member).1

theorem tokenize_eq_nil_iff : tokenize line = [] ↔ ∀ c ∈ code line, Text.isBlank c = true := by
  rcases tokenize_cases line with ⟨blank, none⟩ | ⟨mnemonic, operands, notBlank, tokens, _⟩
  · exact ⟨fun _ => blank, fun _ => none⟩
  · rw [tokens]
    exact ⟨fun empty => absurd empty (by simp), fun blank => absurd blank notBlank⟩

/-- Words without blanks and comment signs are read back from a line that has them between single
blanks, if all but the first of them are operands. -/
theorem tokenize_join {tokens : List Text} (areWords : ∀ token ∈ tokens, IsSourceWord token)
    (areOperands : ∀ token ∈ tokens.tail, IsOperandToken token) :
    tokenize (Text.join " " tokens) = tokens := by
  have noSign : '#' ∉ Text.join " " tokens := by
    intro sign
    rcases Text.mem_of_mem_join sign with blank | ⟨token, member, inToken⟩
    · exact absurd blank (by decide)
    · exact (areWords token member).2 inToken
  rw [tokenize_eq_ofTextWords, code_eq_self noSign,
    Text.words_join fun token member => (areWords token member).1]
  cases tokens with
  | nil => rfl
  | cons mnemonic operands =>
      -- Only what stands behind the mnemonic is cut, and an operand is not cut any further.
      rw [List.tail_cons] at areOperands
      rw [ofTextWords, flatMap_splitOperands_eq_self areOperands]

/-- Tokens hold nothing that would part them again or end the line, there are none exactly on a
line without code, and they are read back from their own text as from the text that a listing keeps
of the line. -/
theorem tokens_are_stable (line : Text) :
    (∀ token ∈ tokenize line, token ≠ [] ∧ ∀ c ∈ token, Text.isBlank c = false ∧ c ≠ '#') ∧
    (∀ token ∈ (tokenize line).tail,
      token = ['('] ∨ token = [')'] ∨ ∀ c ∈ token, c ≠ ',' ∧ c ≠ '(' ∧ c ≠ ')') ∧
    (tokenize line = [] ↔ ∀ c ∈ code line, Text.isBlank c = true) ∧
    tokenize (Text.join " " (tokenize line)) = tokenize line ∧
    tokenize (source line) = tokenize line := by
  refine ⟨?_, ?_, tokenize_eq_nil_iff, ?_, tokenize_source line⟩
  · intro token member
    have isSourceWord := isSourceWord_of_mem_tokenize member
    refine ⟨isSourceWord.1.1, fun c inToken => ⟨isSourceWord.1.2 c inToken, ?_⟩⟩
    rintro rfl
    exact isSourceWord.2 inToken
  · intro token member
    exact (isOperandToken_of_mem_tail member).single_or_solid
  · apply tokenize_join
    · intro token member
      exact isSourceWord_of_mem_tokenize member
    · intro token member
      exact isOperandToken_of_mem_tail member

/-- The mnemonic keeps its comma; an operand next to a parenthesis is cut off from it. -/
example : tokenize "\tlw,x  -4(\u00a0sp ,)#(".toList =
    ["lw,x".toList, "-4".toList, "(".toList, "sp".toList, ")".toList] := by
  rfl

end PseudoAsm.Statement
