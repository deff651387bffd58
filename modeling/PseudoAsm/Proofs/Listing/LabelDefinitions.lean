import PseudoAsm.Listing.Labels
import PseudoAsm.Proofs.Text.Plain

/-!
# Where a line defines labels

A line starts with a label definition if what stands before its first colon is a name. Names hold no
blanks, so this shows in the words of the line: either the first word starts with a name and a
colon, or it is a name and the second word starts with a colon. Hence the blanks between words do
not matter, and the code that is left after all label definitions starts with none.
-/

namespace PseudoAsm.Label

variable {line name before after : Text} {c : Char}

theorem isPlainCharacter_of_isStart (start : isStart c = true) :
    Text.isPlainCharacter c = true := by
  simp only [isStart, Bool.or_eq_true, beq_iff_eq] at start
  rcases start with ((letter | rfl) | rfl) | rfl
  · apply Text.isPlainCharacter_of_isWordCharacter
    exact Text.isWordCharacter_of_isAlphanum (by simp [Char.isAlphanum, letter])
  all_goals decide

theorem isPlainCharacter_of_isContinuation (inside : isContinuation c = true) :
    Text.isPlainCharacter c = true := by
  simp only [isContinuation, Bool.or_eq_true, beq_iff_eq] at inside
  rcases inside with (word | rfl) | rfl
  · exact Text.isPlainCharacter_of_isWordCharacter word
  all_goals decide

theorem isPlain_of_isName (isName : isName name = true) : Text.IsPlain name := by
  cases name with
  | nil => cases isName
  | cons first rest =>
      simp only [Label.isName, Bool.and_eq_true, List.all_eq_true] at isName
      refine ⟨by simp, ?_⟩
      intro c member
      rcases List.mem_cons.1 member with rfl | inRest
      · exact isPlainCharacter_of_isStart isName.1
      · exact isPlainCharacter_of_isContinuation (isName.2 c inRest)

theorem split_of_not_mem (absent : ':' ∉ line) : split line = ([], line) := by
  rw [split, List.splitOn_eq_singleton absent, ofPieces]

/-- At the first colon of a line it is decided whether a label stands before it. -/
theorem split_append_colon (absent : ':' ∉ before) :
    split (before ++ ':' :: after) =
      if isName (Text.trim before) then (Text.trim before :: (split after).1, (split after).2)
      else ([], before ++ ':' :: after) := by
  have pieces := List.splitOn_append_cons_self_of_not_mem absent after
  have whole : [':'].intercalate ((before ++ ':' :: after).splitOn ':') = before ++ ':' :: after :=
    List.intercalate_splitOn ':'
  rw [pieces] at whole
  rcases List.exists_cons_of_ne_nil (List.splitOn_ne_nil ':' after) with ⟨piece, later, afterPieces⟩
  have ofAfter : split after = ofPieces (piece :: later) := by
    rw [split, afterPieces]
  rw [afterPieces] at pieces whole
  rw [split, pieces, ofPieces, ofAfter]
  · split
    · rfl
    · exact congrArg (Prod.mk []) whole
  · simp

/-- The words of a line that starts with a label definition. -/
def StartsDefinition (words : List Text) : Prop :=
  ∃ name rest later, isName name = true ∧
    (words = (name ++ ':' :: rest) :: later ∨ words = name :: (':' :: rest) :: later)

theorem not_mem_of_isName_trim (isName : isName (Text.trim before) = true) : ':' ∉ before := by
  intro member
  rcases Text.exists_trim before with ⟨front, back, parts, frontBlank, backBlank⟩
  rw [parts, List.mem_append, List.mem_append] at member
  rcases member with inFront | inName | inBack
  · exact absurd (frontBlank _ inFront) (by decide)
  · exact (isPlain_of_isName isName).not_mem (by decide) inName
  · exact absurd (backBlank _ inBack) (by decide)

/-- A line has no labels if no colon has a name before it. -/
theorem split_fst_eq_nil_iff :
    (split line).1 = [] ↔
      ∀ before after, line = before ++ ':' :: after → isName (Text.trim before) = false := by
  constructor
  · rintro noLabels before after rfl
    rw [Bool.eq_false_iff]
    intro name
    rw [split_append_colon (not_mem_of_isName_trim name), if_pos name] at noLabels
    cases noLabels
  · intro noName
    by_cases colon : ':' ∈ line
    · rcases List.eq_append_cons_of_mem colon with ⟨before, after, parts, absent⟩
      rw [parts, split_append_colon absent, noName before after parts]
      rfl
    · rw [split_of_not_mem colon]

theorem startsDefinition_words_iff :
    StartsDefinition (Text.words line) ↔
      ∃ before after, line = before ++ ':' :: after ∧ isName (Text.trim before) = true := by
  constructor
  · rintro ⟨name, rest, later, isName, together | apart⟩
    · rcases Text.exists_of_words_eq_cons together with ⟨front, after, rfl, frontBlank, _, _⟩
      refine ⟨front ++ name, rest ++ after, by simp, ?_⟩
      have trim : Text.trim (front ++ (name ++ [])) = name :=
        Text.trim_blanks_word_blanks (isPlain_of_isName isName).isWord frontBlank (by simp)
      rw [List.append_nil] at trim
      rwa [trim]
    · rcases Text.exists_of_words_eq_cons apart with ⟨front, _, rfl, frontBlank, _, second⟩
      rcases Text.exists_of_words_eq_cons second with ⟨back, after, rfl, backBlank, _, _⟩
      refine ⟨front ++ (name ++ back), rest ++ after, by simp, ?_⟩
      rwa [Text.trim_blanks_word_blanks (isPlain_of_isName isName).isWord frontBlank backBlank]
  · rintro ⟨before, after, rfl, isName⟩
    rcases Text.exists_trim before with ⟨front, back, parts, frontBlank, backBlank⟩
    have isWord := (isPlain_of_isName isName).isWord
    rw [parts, List.append_assoc, Text.words_append_of_forall_blank frontBlank, List.append_assoc]
    -- Blanks after the name part it from the colon; without them both start the same word.
    cases back with
    | nil =>
        have colonWord : Text.IsWord (Text.trim before ++ [':']) := by
          refine ⟨by simp, ?_⟩
          intro c member
          rcases List.mem_append.1 member with inName | colon
          · exact isWord.2 c inName
          · rw [List.mem_singleton.1 colon]
            decide
        rcases Text.exists_words_append_eq_cons colonWord after with ⟨rest, later, words⟩
        refine ⟨Text.trim before, rest, later, isName, .inl ?_⟩
        simpa using words
    | cons c back =>
        have ends : Text.EndsWord (c :: back ++ ':' :: after) := by
          rintro _ ⟨⟩
          exact backBlank c List.mem_cons_self
        have colonWord : Text.IsWord [':'] := ⟨by simp, by decide⟩
        rcases Text.exists_words_append_eq_cons colonWord after with ⟨rest, later, words⟩
        refine ⟨Text.trim before, rest, later, isName, .inr ?_⟩
        rw [Text.words_append_of_endsWord isWord ends, Text.words_append_of_forall_blank backBlank]
        exact congrArg _ words

/-- Whether a line has labels shows in its words. -/
theorem split_fst_eq_nil_iff_words :
    (split line).1 = [] ↔ ¬ StartsDefinition (Text.words line) := by
  rw [split_fst_eq_nil_iff, startsDefinition_words_iff]
  simp

/-- What is left of a line after its labels defines no more of them. -/
theorem split_split_snd_fst (line : Text) : (split (split line).2).1 = [] := by
  induction line using Text.cut_induction (· == ':') with
  | solid line absent =>
      have notMem : ':' ∉ line := fun member => by simpa using absent ':' member
      rw [split_of_not_mem notMem, split_of_not_mem notMem]
  | step before c after absent colon ih =>
      rw [beq_iff_eq] at colon
      subst colon
      have notMem : ':' ∉ before := fun member => by simpa using absent ':' member
      rw [split_append_colon notMem]
      split
      · exact ih
      · next noName =>
          rw [split_append_colon notMem, if_neg noName]

/-- The labels that are taken off a line are names. -/
theorem isName_of_mem_split_fst (member : name ∈ (split line).1) : isName name = true := by
  induction line using Text.cut_induction (· == ':') with
  | solid line absent =>
      rw [split_of_not_mem fun colon => by simpa using absent ':' colon] at member
      cases member
  | step before c after absent colon ih =>
      rw [beq_iff_eq] at colon
      subst colon
      rw [split_append_colon fun colon => by simpa using absent ':' colon] at member
      split at member
      · next first =>
          rcases List.mem_cons.1 member with rfl | later
          · exact first
          · exact ih later
      · cases member

theorem split_eq_of_fst_eq_nil (noLabels : (split line).1 = []) : split line = ([], line) := by
  by_cases colon : ':' ∈ line
  · rcases List.eq_append_cons_of_mem colon with ⟨before, after, rfl, absent⟩
    rw [split_append_colon absent] at noLabels ⊢
    split at noLabels
    · cases noLabels
    · next noName => rw [if_neg noName]
  · exact split_of_not_mem colon

end PseudoAsm.Label
