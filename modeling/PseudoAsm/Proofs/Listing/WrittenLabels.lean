import PseudoAsm.Proofs.Listing.LabelDefinitions

/-!
# Label definitions written and read back

Label definitions are taken from the start of a line one by one, each a name and a colon with any
blanks around the name, until the line starts with none. This ends on every line, and what is found
depends on the line alone. So definitions that are written in front of code are read back as they
were written, unless the code starts with one more. Neither a name nor the blanks around it hold a
comment sign, so the labels of a line stand before its comment.
-/

namespace PseudoAsm.Label

/-- A label definition as it stands on a line. -/
structure Definition where
  front : Text
  name : Text
  back : Text
  isBlank_front : ∀ c ∈ front, Text.isBlank c = true
  isName : isName name = true
  isBlank_back : ∀ c ∈ back, Text.isBlank c = true

namespace Definition

/-- The definition as it is written. -/
def text (definition : Definition) : Text :=
  definition.front ++ (definition.name ++ definition.back) ++ [':']

/-- The text of definitions that stand one after another. -/
def textOf (definitions : List Definition) : Text :=
  definitions.flatMap text

theorem trim_before_colon (definition : Definition) :
    Text.trim (definition.front ++ (definition.name ++ definition.back)) = definition.name :=
  Text.trim_blanks_word_blanks (isPlain_of_isName definition.isName).isWord
    definition.isBlank_front definition.isBlank_back

/-- What stands before a colon is a definition if it is a name between blanks. -/
theorem exists_eq_text_append {before : Text} (isName : Label.isName (Text.trim before) = true)
    (after : Text) :
    ∃ definition : Definition, definition.name = Text.trim before ∧
      before ++ ':' :: after = definition.text ++ after := by
  rcases Text.exists_trim before with ⟨front, back, parts, frontBlank, backBlank⟩
  refine ⟨⟨front, Text.trim before, back, frontBlank, isName, backBlank⟩, rfl, ?_⟩
  rw [text, ← parts, List.append_assoc, List.singleton_append]

theorem not_mem_text (definition : Definition) : '#' ∉ definition.text := by
  intro sign
  rw [text, List.mem_append, List.mem_append, List.mem_append, List.mem_singleton] at sign
  rcases sign with (inFront | inName | inBack) | isColon
  · exact absurd (definition.isBlank_front _ inFront) (by decide)
  · exact (isPlain_of_isName definition.isName).not_mem (by decide) inName
  · exact absurd (definition.isBlank_back _ inBack) (by decide)
  · exact absurd isColon (by decide)

theorem not_mem_textOf (definitions : List Definition) : '#' ∉ textOf definitions := by
  intro sign
  rcases List.mem_flatMap.1 sign with ⟨definition, _, inText⟩
  exact definition.not_mem_text inText

end Definition

/-- Whether a line starts with a label definition. -/
def StartsWithDefinition (line : Text) : Prop :=
  ∃ (definition : Definition) (rest : Text), line = definition.text ++ rest

/-- Label definitions are taken from the start of a line until it starts with none: the names that
are found, and what is left of the line then. -/
inductive Taken : Text → List Text → Text → Prop
  | stop {code : Text} (noDefinition : ¬ StartsWithDefinition code) : Taken code [] code
  | take (definition : Definition) {rest : Text} {labels : List Text} {code : Text}
      (later : Taken rest labels code) :
      Taken (definition.text ++ rest) (definition.name :: labels) code

variable {line code : Text} {labels : List Text}

/-- A written definition is taken off a line. -/
@[simp]
theorem split_text_append (definition : Definition) (rest : Text) :
    split (definition.text ++ rest) = (definition.name :: (split rest).1, (split rest).2) := by
  have isName : isName (Text.trim (definition.front ++ (definition.name ++ definition.back))) =
      true := by
    rw [definition.trim_before_colon]
    exact definition.isName
  rw [Definition.text, List.append_assoc, List.singleton_append,
    split_append_colon (not_mem_of_isName_trim isName), if_pos isName,
    definition.trim_before_colon]

theorem startsWithDefinition_iff : StartsWithDefinition line ↔ (split line).1 ≠ [] := by
  constructor
  · rintro ⟨definition, rest, rfl⟩
    simp
  · intro someLabel
    rw [ne_eq, split_fst_eq_nil_iff] at someLabel
    simp only [not_forall, Bool.not_eq_false] at someLabel
    rcases someLabel with ⟨before, after, rfl, isName⟩
    rcases Definition.exists_eq_text_append isName after with ⟨definition, _, parts⟩
    exact ⟨definition, after, parts⟩

theorem split_of_not_startsWithDefinition (noDefinition : ¬ StartsWithDefinition line) :
    split line = ([], line) := by
  rw [startsWithDefinition_iff, not_not] at noDefinition
  exact split_eq_of_fst_eq_nil noDefinition

/-- Definitions are taken off one by one. -/
theorem split_eq_of_taken (taken : Taken line labels code) : split line = (labels, code) := by
  induction taken with
  | stop noDefinition => exact split_of_not_startsWithDefinition noDefinition
  | take definition _ ih => rw [split_text_append, ih]

/-- The line is gone through from colon to colon, up to the first one without a name before it. -/
theorem taken_split (line : Text) : Taken line (split line).1 (split line).2 := by
  induction line using Text.cut_induction (· == ':') with
  | solid line absent =>
      have notMem : ':' ∉ line := fun member => by simpa using absent ':' member
      rw [split_of_not_mem notMem]
      apply Taken.stop
      rw [startsWithDefinition_iff, split_of_not_mem notMem]
      simp
  | step before c after absent colon ih =>
      rw [beq_iff_eq] at colon
      subst colon
      have notMem : ':' ∉ before := fun member => by simpa using absent ':' member
      by_cases isName : isName (Text.trim before) = true
      · rcases Definition.exists_eq_text_append isName after with ⟨definition, _, parts⟩
        rw [parts, split_text_append]
        exact Taken.take definition ih
      -- What stands behind this colon is not looked at, so the induction is not needed here.
      · have whole : split (before ++ ':' :: after) = ([], before ++ ':' :: after) := by
          rw [split_append_colon notMem, if_neg isName]
        rw [whole]
        apply Taken.stop
        rw [startsWithDefinition_iff, whole]
        simp

/-- Labels are taken off in one way only. -/
theorem split_eq_iff_taken : split line = (labels, code) ↔ Taken line labels code := by
  constructor
  · intro read
    have taken := taken_split line
    rwa [read] at taken
  · exact split_eq_of_taken

theorem taken_textOf_append (definitions : List Definition)
    (noDefinition : ¬ StartsWithDefinition code) :
    Taken (Definition.textOf definitions ++ code) (definitions.map Definition.name) code := by
  induction definitions with
  | nil => exact Taken.stop noDefinition
  | cons definition definitions ih =>
      rw [Definition.textOf, List.flatMap_cons, List.append_assoc, List.map_cons]
      exact Taken.take definition ih

theorem exists_eq_textOf_of_taken (taken : Taken line labels code) :
    ∃ definitions, labels = definitions.map Definition.name ∧
      line = Definition.textOf definitions ++ code ∧ ¬ StartsWithDefinition code := by
  induction taken with
  | stop noDefinition => exact ⟨[], rfl, rfl, noDefinition⟩
  | take definition _ ih =>
      rcases ih with ⟨definitions, rfl, rfl, noDefinition⟩
      refine ⟨definition :: definitions, rfl, ?_, noDefinition⟩
      rw [Definition.textOf, Definition.textOf, List.flatMap_cons, List.append_assoc]

/-- Definitions written before code are read back, and code that starts with none is left as it is.
On every line the definitions that are taken come to an end; they stand before any comment, and what
is left ends the line and defines nothing more. -/
theorem split_inverts_writing :
    (∀ (definitions : List Definition) (code : Text), ¬ StartsWithDefinition code →
      split (Definition.textOf definitions ++ code) =
        (definitions.map Definition.name, code)) ∧
    ∀ line : Text,
      (∀ labels code, Taken line labels code ↔ split line = (labels, code)) ∧
      (split line).2 <:+ line ∧ split (split line).2 = ([], (split line).2) ∧
      ∃ definitions, (split line).1 = definitions.map Definition.name ∧
        line = Definition.textOf definitions ++ (split line).2 ∧
        '#' ∉ Definition.textOf definitions := by
  constructor
  · intro definitions code noDefinition
    exact split_eq_of_taken (taken_textOf_append definitions noDefinition)
  · intro line
    rcases exists_eq_textOf_of_taken (taken_split line) with
      ⟨definitions, labels, parts, noDefinition⟩
    refine ⟨fun labels code => split_eq_iff_taken.symm, ?_, ?_, definitions, labels, parts, ?_⟩
    · exact ⟨Definition.textOf definitions, parts.symm⟩
    · exact split_of_not_startsWithDefinition noDefinition
    · exact Definition.not_mem_textOf definitions

/-- Two definitions with blanks around the first name. -/
def spacedDefinitions : List Definition :=
  [⟨" ".toList, "loop".toList, "\t".toList, by decide, rfl, by decide⟩,
    ⟨[], "$1.x".toList, [], by decide, rfl, by decide⟩]

/-- Code in which a colon stands behind two words, and a name before a colon in the comment. -/
def colonCode : Text :=
  " j loop : # end:".toList

theorem split_inverts_writing_spaced :
    ¬ StartsWithDefinition colonCode ∧
      split (Definition.textOf spacedDefinitions ++ colonCode) =
        (["loop".toList, "$1.x".toList], colonCode) := by
  have noDefinition : ¬ StartsWithDefinition colonCode := by
    rw [startsWithDefinition_iff, not_not]
    rfl
  exact ⟨noDefinition, split_inverts_writing.1 spacedDefinitions colonCode noDefinition⟩

end PseudoAsm.Label
