import PseudoAsm.Proofs.Statement.Tokens
import PseudoAsm.Proofs.Text.Plain

/-!
# Reading a line character by character

Two questions about a line are answered by readers that go through it once and remember little: is
it written as listings keep it, with single blanks between words and without a comment, and how many
operands has it? A word leaves either reader in a state that does not depend on what the word is.
-/

namespace PseudoAsm.Statement

/-- A word of the source: it holds no blank, and no comment starts in it. -/
def IsSourceWord (text : Text) : Prop :=
  Text.IsWord text ∧ '#' ∉ text

variable {text word : Text} {c : Char}

theorem endsOperand_eq_false_of_isPlainCharacter (plain : Text.isPlainCharacter c = true) :
    endsOperand c = false := by
  simp only [endsOperand, isSeparator, Bool.or_eq_false_iff, beq_eq_false_iff_ne,
    Text.isBlank_eq_false_of_isPlainCharacter plain, and_true]
  refine ⟨⟨?_, ?_⟩, ?_⟩
  all_goals
    rintro rfl
    exact absurd plain (by decide)

theorem isOperand_of_isPlain (plain : Text.IsPlain text) : IsOperand text :=
  ⟨plain.1, fun c member => endsOperand_eq_false_of_isPlainCharacter (plain.2 c member)⟩

theorem isSourceWord_of_isPlain (plain : Text.IsPlain text) : IsSourceWord text :=
  ⟨plain.isWord, plain.not_mem (by decide)⟩

/-- A text leaves a reader where each of its characters does, if one more of them does not
matter. -/
theorem foldl_eq_of_forall_step {State : Type} {step : State → Char → State}
    {settle : State → State} (settled : ∀ state, settle (settle state) = settle state)
    (nonempty : text ≠ []) (steps : ∀ c ∈ text, ∀ state, step state c = settle state)
    (state : State) : text.foldl step state = settle state := by
  induction text generalizing state with
  | nil => exact absurd rfl nonempty
  | cons c rest ih =>
      rw [List.foldl_cons, steps c List.mem_cons_self]
      by_cases last : rest = []
      · subst last
        rfl
      · rw [ih last fun c member => steps c (List.mem_cons_of_mem _ member), settled]

/-- How a line looks so far: a word may follow, a word may go on, or the line is not written as
listings keep lines. -/
inductive Spacing where
  | opening
  | inside
  | untidy
  deriving DecidableEq

namespace Spacing

/-- The spacing of a line after one character more. -/
def step : Spacing → Char → Spacing
  | .untidy, _ => .untidy
  | spacing, c =>
    if spacing = .inside ∧ c = ' ' then .opening
    else if Text.isBlank c || c == '#' then .untidy
    else .inside

/-- How a line looks after a word. -/
def afterWord : Spacing → Spacing
  | .untidy => .untidy
  | _ => .inside

theorem foldl_step_untidy (text : Text) : text.foldl step .untidy = .untidy := by
  induction text with
  | nil => rfl
  | cons c text ih => exact ih

theorem step_of_isBlank_eq_false (solid : Text.isBlank c = false) (noSign : c ≠ '#')
    (spacing : Spacing) : spacing.step c = spacing.afterWord := by
  have notBlank : c ≠ ' ' := by
    rintro rfl
    exact absurd solid (by decide)
  cases spacing <;> simp [step, afterWord, solid, noSign, notBlank]

theorem foldl_step_of_isSourceWord (isSourceWord : IsSourceWord word) (spacing : Spacing) :
    word.foldl step spacing = spacing.afterWord := by
  have settled : ∀ spacing : Spacing, spacing.afterWord.afterWord = spacing.afterWord := by
    intro spacing
    cases spacing <;> rfl
  refine foldl_eq_of_forall_step settled isSourceWord.1.1 ?_ spacing
  intro c member
  exact step_of_isBlank_eq_false (isSourceWord.1.2 c member)
    fun sign => isSourceWord.2 (sign ▸ member)

theorem foldl_step_of_mem (sign : '#' ∈ text) (spacing : Spacing) :
    text.foldl step spacing = .untidy := by
  rcases List.append_of_mem sign with ⟨before, after, rfl⟩
  have untidy : ∀ spacing : Spacing, spacing.step '#' = .untidy := by
    intro spacing
    cases spacing <;> rfl
  rw [List.foldl_append, List.foldl_cons, untidy, foldl_step_untidy]

end Spacing

/-- Whether a line is written as listings keep lines. -/
def isTidy (line : Text) : Bool :=
  line.foldl Spacing.step .opening = .inside

theorem join_words_of_isTidy (noSign : '#' ∉ text) (tidy : isTidy text = true) :
    Text.join " " (Text.words text) = text ∧ text ≠ [] := by
  induction text using Text.cut_induction Text.isBlank with
  | solid text solid =>
      have nonempty : text ≠ [] := by
        rintro rfl
        cases tidy
      rw [Text.words_of_isWord ⟨nonempty, solid⟩, Text.join_singleton]
      exact ⟨rfl, nonempty⟩
  | step before c after solid blank ih =>
      rw [List.mem_append, List.mem_cons, not_or, not_or] at noSign
      rw [isTidy, decide_eq_true_eq, List.foldl_append, List.foldl_cons] at tidy
      by_cases empty : before = []
      · subst empty
        have untidy : Spacing.step .opening c = .untidy := by
          simp [Spacing.step, blank]
        rw [List.foldl_nil, untidy, Spacing.foldl_step_untidy] at tidy
        cases tidy
      · have isWord : Text.IsWord before := ⟨empty, solid⟩
        have met : before.foldl Spacing.step .opening = .inside :=
          Spacing.foldl_step_of_isSourceWord ⟨isWord, noSign.1⟩ .opening
        rw [met] at tidy
        by_cases single : c = ' '
        · subst single
          have later := ih noSign.2.2 (decide_eq_true tidy)
          have wordsNonempty : Text.words after ≠ [] := by
            intro none
            rw [none] at later
            exact later.2 later.1.symm
          rcases List.exists_cons_of_ne_nil wordsNonempty with ⟨second, words, split⟩
          rw [Text.words_append_blank _ _ blank, Text.words_of_isWord isWord, split,
            List.singleton_append, Text.join_cons_cons, ← split, later.1]
          exact ⟨rfl, by simp⟩
        · have untidy : Spacing.step .inside c = .untidy := by
            simp [Spacing.step, single, blank]
          rw [untidy, Spacing.foldl_step_untidy] at tidy
          cases tidy

theorem not_mem_of_isTidy (tidy : isTidy text = true) : '#' ∉ text := by
  intro sign
  rw [isTidy, Spacing.foldl_step_of_mem sign] at tidy
  cases tidy

theorem source_eq_self_of_isTidy (tidy : isTidy text = true) : source text = text := by
  have noSign := not_mem_of_isTidy tidy
  rw [source, code_eq_self noSign, (join_words_of_isTidy noSign tidy).1]

/-- The operands met so far, and whether the last of them may go on. -/
structure OperandCount where
  count : Nat
  inside : Bool

namespace OperandCount

/-- What has been met when a character follows that belongs to an operand. -/
def afterOperand (state : OperandCount) : OperandCount :=
  ⟨if state.inside then state.count else state.count + 1, true⟩

/-- The count of operands after one character more. -/
def step (state : OperandCount) (c : Char) : OperandCount :=
  if isSeparator c then ⟨state.count, false⟩
  else if c == '(' || c == ')' then ⟨state.count + 1, false⟩
  else state.afterOperand

theorem step_of_endsOperand_eq_false (inside : endsOperand c = false) (state : OperandCount) :
    state.step c = state.afterOperand := by
  simp only [endsOperand, Bool.or_eq_false_iff] at inside
  simp [step, inside]

theorem foldl_step_of_isOperand (isOperand : IsOperand text) (state : OperandCount) :
    text.foldl step state = state.afterOperand := by
  have settled : ∀ state : OperandCount, state.afterOperand.afterOperand = state.afterOperand :=
    fun _ => rfl
  exact foldl_eq_of_forall_step settled isOperand.1
    (fun c member => step_of_endsOperand_eq_false (isOperand.2 c member)) state

/-- The operands before a place are counted when the rest is read, wherever the place is. -/
theorem count_foldl_step (start : Nat) (text : Text) :
    (text.foldl step ⟨start, false⟩).count = start + (splitOperands text).length := by
  induction text using Text.cut_induction endsOperand generalizing start with
  | solid text inside =>
      by_cases empty : text = []
      · subst empty
        rfl
      · have isOperand : IsOperand text := ⟨empty, inside⟩
        rw [foldl_step_of_isOperand isOperand, splitOperands_of_isOperand isOperand]
        rfl
  | step before c after inside ends ih =>
      have countBefore : (before.foldl step ⟨start, false⟩).count =
          start + (splitOperands before).length := by
        by_cases empty : before = []
        · subst empty
          rfl
        · have isOperand : IsOperand before := ⟨empty, inside⟩
          rw [foldl_step_of_isOperand isOperand, splitOperands_of_isOperand isOperand]
          rfl
      rw [List.foldl_append, List.foldl_cons]
      rcases isSeparator_or_delimiter_of_endsOperand ends with separator | delimiter
      · rw [splitOperands_append_separator _ _ separator, step, if_pos separator, ih, countBefore,
          List.length_append]
        omega
      · have notSeparator : ¬ isSeparator c = true := by
          rcases delimiter with rfl | rfl <;> decide
        have parenthesis : (c == '(' || c == ')') = true := by
          simpa using delimiter
        rw [splitOperands_append_delimiter _ _ delimiter, step, if_neg notSeparator,
          if_pos parenthesis, ih, countBefore, List.length_append, List.length_cons]
        omega

end OperandCount

/-- The operands of a text can be counted character by character. -/
theorem length_splitOperands (text : Text) :
    (splitOperands text).length = (text.foldl OperandCount.step ⟨0, false⟩).count := by
  rw [OperandCount.count_foldl_step, Nat.zero_add]

end PseudoAsm.Statement
