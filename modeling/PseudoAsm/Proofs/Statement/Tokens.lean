import PseudoAsm.Proofs.Text.Words
import PseudoAsm.Statement

/-!
# The words of a statement

A statement is cut twice: into words at blanks, and the words after the first one into operands at
commas and parentheses. Since every blank cuts operands too, the second cut may be made word by
word, and the statement depends on a line only through the words before the comment. So nothing is
lost when these words are written with single blanks between them, as they are in a listing.
-/

namespace PseudoAsm.Statement

/-- Whether a character ends the operand before it. -/
def endsOperand (c : Char) : Bool :=
  isSeparator c || c == '(' || c == ')'

/-- An operand that is no delimiter: a text that nothing cuts. -/
def IsOperand (text : Text) : Prop :=
  text ≠ [] ∧ ∀ c ∈ text, endsOperand c = false

variable {text operand : Text} {c : Char}

theorem isSeparator_of_isBlank (blank : Text.isBlank c = true) : isSeparator c = true := by
  simp [isSeparator, blank]

theorem isBlank_eq_false_of_endsOperand_eq_false (inside : endsOperand c = false) :
    Text.isBlank c = false := by
  simp only [endsOperand, isSeparator, Bool.or_eq_false_iff] at inside
  exact inside.1.1.2

theorem IsOperand.isWord (isOperand : IsOperand text) : Text.IsWord text :=
  ⟨isOperand.1, fun c member => isBlank_eq_false_of_endsOperand_eq_false (isOperand.2 c member)⟩

theorem setApart_of_endsOperand_eq_false (inside : endsOperand c = false) : setApart c = [c] := by
  simp only [endsOperand, Bool.or_eq_false_iff] at inside
  simp [setApart, inside]

theorem setApart_of_isSeparator (separator : isSeparator c = true) : setApart c = [c] := by
  have notDelimiter : (c == '(' || c == ')') = false := by
    rw [Bool.eq_false_iff]
    intro delimiter
    simp only [Bool.or_eq_true, beq_iff_eq] at delimiter
    rcases delimiter with rfl | rfl <;> exact absurd separator (by decide)
  simp [setApart, notDelimiter]

theorem flatMap_setApart_eq_self (inside : ∀ c ∈ text, endsOperand c = false) :
    text.flatMap setApart = text := by
  induction text with
  | nil => rfl
  | cons c text ih =>
      rw [List.flatMap_cons, setApart_of_endsOperand_eq_false (inside c List.mem_cons_self),
        ih fun c member => inside c (List.mem_cons_of_mem _ member), List.singleton_append]

theorem splitOperands_append_separator (before after : Text) (separator : isSeparator c = true) :
    splitOperands (before ++ c :: after) = splitOperands before ++ splitOperands after := by
  rw [splitOperands, List.flatMap_append, List.flatMap_cons, setApart_of_isSeparator separator,
    List.singleton_append, List.splitOnP_append_cons _ _ separator, List.filter_append]
  rfl

/-- A parenthesis is an operand wherever it stands. -/
theorem splitOperands_append_delimiter (before after : Text) (delimiter : c = '(' ∨ c = ')') :
    splitOperands (before ++ c :: after) =
      splitOperands before ++ [c] :: splitOperands after := by
  have apart : setApart c = [' ', c, ' '] := by
    rcases delimiter with rfl | rfl <;> rfl
  have alone : ∀ other ∈ [c], isSeparator other = false := by
    rcases delimiter with rfl | rfl <;> decide
  have blank : isSeparator ' ' = true := by decide
  have split : ((before ++ c :: after).flatMap setApart).splitOnP isSeparator =
      (before.flatMap setApart).splitOnP isSeparator ++
        [c] :: (after.flatMap setApart).splitOnP isSeparator := by
    rw [List.flatMap_append, List.flatMap_cons, apart]
    change List.splitOnP isSeparator (before.flatMap setApart ++ ' ' :: ([c] ++ ' ' ::
      after.flatMap setApart)) = _
    rw [List.splitOnP_append_cons _ _ blank,
      List.splitOnP_append_cons_of_forall_mem alone ' ' blank]
  rw [splitOperands, split, List.filter_append, List.filter_cons_of_pos (by simp)]
  rfl

theorem splitOperands_of_isOperand (isOperand : IsOperand text) : splitOperands text = [text] := by
  have solid : ∀ c ∈ text, isSeparator c = false := by
    intro c member
    have inside := isOperand.2 c member
    simp only [endsOperand, Bool.or_eq_false_iff] at inside
    exact inside.1.1
  rw [splitOperands, flatMap_setApart_eq_self isOperand.2, List.splitOnP_eq_singleton solid]
  simp [isOperand.1]

theorem isSeparator_or_delimiter_of_endsOperand (ends : endsOperand c = true) :
    isSeparator c = true ∨ c = '(' ∨ c = ')' := by
  simpa only [endsOperand, Bool.or_eq_true, beq_iff_eq, or_assoc] using ends

/-- An operand is a parenthesis or a text that nothing cuts, and it stands in the statement. -/
theorem isOperand_or_delimiter_of_mem_splitOperands (member : operand ∈ splitOperands text) :
    (operand = ['('] ∨ operand = [')'] ∨ IsOperand operand) ∧ ∀ c ∈ operand, c ∈ text := by
  induction text using Text.cut_induction endsOperand with
  | solid text inside =>
      by_cases empty : text = []
      · subst empty
        cases member
      · rw [splitOperands_of_isOperand ⟨empty, inside⟩, List.mem_singleton] at member
        subst member
        exact ⟨.inr (.inr ⟨empty, inside⟩), fun _ => id⟩
  | step before c after inside ends ih =>
      have inFront : operand ∈ splitOperands before →
          (operand = ['('] ∨ operand = [')'] ∨ IsOperand operand) ∧
            ∀ other ∈ operand, other ∈ before ++ c :: after := by
        intro memberBefore
        by_cases empty : before = []
        · subst empty
          cases memberBefore
        · rw [splitOperands_of_isOperand ⟨empty, inside⟩, List.mem_singleton] at memberBefore
          subst memberBefore
          exact ⟨.inr (.inr ⟨empty, inside⟩), fun _ => List.mem_append_left _⟩
      have later : operand ∈ splitOperands after →
          (operand = ['('] ∨ operand = [')'] ∨ IsOperand operand) ∧
            ∀ other ∈ operand, other ∈ before ++ c :: after := by
        intro memberAfter
        rcases ih memberAfter with ⟨kind, inText⟩
        exact ⟨kind, fun other inOperand =>
          List.mem_append_right _ (List.mem_cons_of_mem _ (inText other inOperand))⟩
      rcases isSeparator_or_delimiter_of_endsOperand ends with separator | delimiter
      · rw [splitOperands_append_separator _ _ separator, List.mem_append] at member
        exact member.elim inFront later
      · rw [splitOperands_append_delimiter _ _ delimiter, List.mem_append, List.mem_cons] at member
        rcases member with memberBefore | rfl | memberAfter
        · exact inFront memberBefore
        · rcases delimiter with rfl | rfl
          · exact ⟨.inl rfl, by simp⟩
          · exact ⟨.inr (.inl rfl), by simp⟩
        · exact later memberAfter

theorem splitOperands_eq_flatMap_words (text : Text) :
    splitOperands text = (Text.words text).flatMap splitOperands := by
  have ofSolid : ∀ text : Text, (∀ c ∈ text, Text.isBlank c = false) →
      splitOperands text = (Text.words text).flatMap splitOperands := by
    intro text solid
    by_cases empty : text = []
    · subst empty
      rfl
    · rw [Text.words_of_isWord ⟨empty, solid⟩, List.flatMap_singleton]
  induction text using Text.cut_induction Text.isBlank with
  | solid text solid => exact ofSolid text solid
  | step before c after solid blank ih =>
      rw [splitOperands_append_separator _ _ (isSeparator_of_isBlank blank),
        Text.words_append_blank _ _ blank, List.flatMap_append, ofSolid before solid, ih]

/-- The mnemonic and the operands, from the words of a text without a comment. -/
def ofTextWords : List Text → List Text
  | [] => []
  | mnemonic :: words => mnemonic :: words.flatMap splitOperands

/-- A statement depends on its line only through the words before the comment. -/
theorem tokenize_eq_ofTextWords (line : Text) :
    tokenize line = ofTextWords (Text.words (code line)) := by
  rw [← Text.words_trimStart, tokenize]
  cases trimmed : Text.trimStart (code line) with
  | nil => rfl
  | cons c rest =>
      have solid := Text.not_blank_of_trimStart_eq_cons trimmed
      rw [Text.words_cons_of_not_blank solid, ofTextWords, ← splitOperands_eq_flatMap_words]
      simp

theorem isOperand_or_delimiter_of_mem_operands {line : Text} {statement : Statement}
    (read : read? line = some statement) (member : operand ∈ statement.operands) :
    operand = ['('] ∨ operand = [')'] ∨ IsOperand operand := by
  rw [read?, tokenize_eq_ofTextWords] at read
  cases words : Text.words (code line) with
  | nil =>
      rw [words] at read
      cases read
  | cons mnemonic later =>
      rw [words] at read
      cases read
      rcases List.mem_flatMap.1 member with ⟨word, _, inWord⟩
      exact (isOperand_or_delimiter_of_mem_splitOperands inWord).1

theorem code_eq_self (noComment : '#' ∉ text) : code text = text := by
  rw [code, List.takeWhile_eq_self_iff]
  intro c member
  have other : c ≠ '#' := fun equal => noComment (equal ▸ member)
  simpa using other

theorem not_mem_code (line : Text) : '#' ∉ code line := by
  intro member
  simpa using List.mem_takeWhile_imp member

theorem not_mem_source (line : Text) : '#' ∉ source line := by
  intro member
  rcases Text.mem_of_mem_join member with blank | ⟨word, wordMem, inWord⟩
  · exact absurd blank (by decide)
  · exact not_mem_code line ((Text.isWord_of_mem_words wordMem).2 '#' inWord)

@[simp]
theorem words_code_source (line : Text) :
    Text.words (code (source line)) = Text.words (code line) := by
  rw [code_eq_self (not_mem_source line), source, Text.words_join_words]

/-- The text that a listing keeps of a line is the same statement. -/
theorem tokenize_source (line : Text) : tokenize (source line) = tokenize line := by
  rw [tokenize_eq_ofTextWords, tokenize_eq_ofTextWords, words_code_source]

@[simp]
theorem read?_source (line : Text) : read? (source line) = read? line := by
  rw [read?, tokenize_source, read?]

@[simp]
theorem source_source (line : Text) : source (source line) = source line := by
  rw [source, words_code_source, source]

theorem tokenize_append_blank {mnemonic rest : Text} (isWord : Text.IsWord mnemonic)
    (noComment : '#' ∉ mnemonic ++ ' ' :: rest) :
    tokenize (mnemonic ++ ' ' :: rest) = mnemonic :: splitOperands rest := by
  rw [tokenize_eq_ofTextWords, code_eq_self noComment, Text.words_append_blank _ _ (by decide),
    Text.words_of_isWord isWord, List.singleton_append, ofTextWords,
    ← splitOperands_eq_flatMap_words]

theorem read?_append_blank {mnemonic rest : Text} (isWord : Text.IsWord mnemonic)
    (noComment : '#' ∉ mnemonic ++ ' ' :: rest) :
    read? (mnemonic ++ ' ' :: rest) = some ⟨mnemonic, splitOperands rest⟩ := by
  rw [read?, tokenize_append_blank isWord noComment, ofWords?]

/-- There is no statement on a line exactly if there are only blanks before the comment. -/
theorem read?_eq_none_iff {line : Text} :
    read? line = none ↔ ∀ c ∈ code line, Text.isBlank c = true := by
  have unread : read? line = none ↔ Text.words (code line) = [] := by
    rw [read?, tokenize_eq_ofTextWords]
    cases Text.words (code line) <;> simp [ofTextWords, ofWords?]
  rw [unread, Text.words_eq_nil_iff]

end PseudoAsm.Statement
