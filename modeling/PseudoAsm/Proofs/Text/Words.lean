import Mathlib.Data.List.TakeWhile
import PseudoAsm.Text.Pieces

/-!
# Words between blanks

A blank parts the words before it from those after it, whatever stands there. All facts about the
words of a text come from this: words hold no blanks, they are read back from a text that has them
between single blanks, and the first of them stands in the text after nothing but blanks.
-/

namespace PseudoAsm.Text

/-- A text that may stand between blanks. -/
def IsWord (text : Text) : Prop :=
  text ≠ [] ∧ ∀ c ∈ text, isBlank c = false

variable {text word : Text} {c : Char}

/-- A text is taken apart at the characters that cut it, the first of them first. -/
theorem cut_induction (cuts : Char → Bool) {motive : Text → Prop}
    (solid : ∀ text, (∀ c ∈ text, cuts c = false) → motive text)
    (step : ∀ before c after, (∀ c ∈ before, cuts c = false) → cuts c = true →
      motive after → motive (before ++ c :: after)) (text : Text) : motive text := by
  induction length : text.length using Nat.strongRecOn generalizing text with
  | ind size ih =>
      have parts := List.takeWhile_append_dropWhile (p := fun c => !cuts c) (l := text)
      have before : ∀ c ∈ text.takeWhile (!cuts ·), cuts c = false := by
        intro c member
        simpa using List.mem_takeWhile_imp member
      cases rest : text.dropWhile (!cuts ·) with
      | nil =>
          rw [rest, List.append_nil] at parts
          rw [parts] at before
          exact solid text before
      | cons c after =>
          have cut : cuts c = true := by
            have head := List.head?_dropWhile_not (fun c => !cuts c) text
            simpa [rest] using head
          rw [rest] at parts
          rw [← parts]
          apply step _ _ _ before cut
          apply ih after.length _ after rfl
          rw [← length, ← parts, List.length_append, List.length_cons]
          omega

/-- A blank cuts the words before it from those behind it. -/
theorem words_append_blank (before after : Text) (blank : isBlank c = true) :
    words (before ++ c :: after) = words before ++ words after := by
  rw [words, List.splitOnP_append_cons before after blank, List.filter_append]
  rfl

theorem words_cons_blank (blank : isBlank c = true) : words (c :: text) = words text :=
  words_append_blank [] text blank

/-- A word is its only word. -/
theorem words_of_isWord (isWord : IsWord word) : words word = [word] := by
  rw [words, List.splitOnP_eq_singleton isWord.2]
  simp [isWord.1]

theorem words_eq_nil_of_forall_blank (blank : ∀ c ∈ text, isBlank c = true) : words text = [] := by
  induction text with
  | nil => rfl
  | cons c text ih =>
      rw [words_cons_blank (blank c List.mem_cons_self)]
      exact ih fun c member => blank c (List.mem_cons_of_mem _ member)

theorem words_append_of_forall_blank {before : Text} (blank : ∀ c ∈ before, isBlank c = true) :
    words (before ++ text) = words text := by
  induction before with
  | nil => rfl
  | cons c before ih =>
      rw [List.cons_append, words_cons_blank (blank c List.mem_cons_self)]
      exact ih fun c member => blank c (List.mem_cons_of_mem _ member)

/-- What follows a word, if anything, is a blank. -/
def EndsWord (after : Text) : Prop :=
  ∀ c ∈ after.head?, isBlank c = true

/-- A word ends where a blank follows or the text ends. -/
theorem words_append_of_endsWord {after : Text} (isWord : IsWord word) (ends : EndsWord after) :
    words (word ++ after) = word :: words after := by
  cases after with
  | nil => simp [words_of_isWord isWord, words_eq_nil_of_forall_blank]
  | cons c after =>
      have blank : isBlank c = true := ends c rfl
      rw [words_append_blank word after blank, words_of_isWord isWord, words_cons_blank blank,
        List.singleton_append]

/-- The words of a text are words, made of its characters. -/
theorem isWord_of_mem_words (member : word ∈ words text) :
    IsWord word ∧ ∀ c ∈ word, c ∈ text := by
  induction text using cut_induction isBlank with
  | solid text solid =>
      by_cases empty : text = []
      · subst empty
        cases member
      · rw [words_of_isWord ⟨empty, solid⟩, List.mem_singleton] at member
        subst member
        exact ⟨⟨empty, solid⟩, fun _ => id⟩
  | step before c after solid blank ih =>
      rw [words_append_blank before after blank, List.mem_append] at member
      rcases member with inFront | later
      · by_cases empty : before = []
        · subst empty
          cases inFront
        · rw [words_of_isWord ⟨empty, solid⟩, List.mem_singleton] at inFront
          subst inFront
          exact ⟨⟨empty, solid⟩, fun c inWord => List.mem_append_left _ inWord⟩
      · rcases ih later with ⟨isWord, inText⟩
        exact ⟨isWord, fun c inWord =>
          List.mem_append_right _ (List.mem_cons_of_mem _ (inText c inWord))⟩

/-- The first word of a text, with the blanks before it and the text after it. -/
theorem exists_of_words_eq_cons {later : List Text} (split : words text = word :: later) :
    ∃ before after, text = before ++ (word ++ after) ∧ (∀ c ∈ before, isBlank c = true) ∧
      EndsWord after ∧ words after = later := by
  induction text using cut_induction isBlank with
  | solid text solid =>
      by_cases empty : text = []
      · subst empty
        cases split
      · rw [words_of_isWord ⟨empty, solid⟩] at split
        cases split
        exact ⟨[], [], by simp, by simp, by simp [EndsWord], rfl⟩
  | step before c after solid blank ih =>
      rw [words_append_blank before after blank] at split
      by_cases empty : before = []
      · subst empty
        rcases ih split with ⟨blanks, rest, rfl, allBlank, ends, restWords⟩
        refine ⟨c :: blanks, rest, rfl, ?_, ends, restWords⟩
        rintro other (_ | ⟨_, member⟩)
        · exact blank
        · exact allBlank other member
      · rw [words_of_isWord ⟨empty, solid⟩, List.singleton_append] at split
        cases split
        refine ⟨[], c :: after, rfl, by simp, ?_, words_cons_blank blank⟩
        rintro other ⟨⟩
        exact blank

/-- Only blanks make no words. -/
theorem words_eq_nil_iff : words text = [] ↔ ∀ c ∈ text, isBlank c = true := by
  refine ⟨?_, words_eq_nil_of_forall_blank⟩
  induction text using cut_induction isBlank with
  | solid text solid =>
      intro noWords
      by_cases empty : text = []
      · simp [empty]
      · simp [words_of_isWord ⟨empty, solid⟩] at noWords
  | step before c after solid blank ih =>
      intro noWords
      rw [words_append_blank before after blank, List.append_eq_nil_iff] at noWords
      by_cases empty : before = []
      · subst empty
        rintro other (_ | ⟨_, member⟩)
        · exact blank
        · exact ih noWords.2 other member
      · simp [words_of_isWord ⟨empty, solid⟩] at noWords

@[simp]
theorem words_trimStart (text : Text) : words (trimStart text) = words text := by
  have blanks : ∀ c ∈ text.takeWhile isBlank, isBlank c = true :=
    fun c member => List.mem_takeWhile_imp member
  calc
    words (trimStart text) = words (text.takeWhile isBlank ++ text.dropWhile isBlank) :=
      (words_append_of_forall_blank blanks).symm
    _ = words text := by rw [List.takeWhile_append_dropWhile]

theorem words_cons_of_not_blank (solid : isBlank c = false) :
    words (c :: text) =
      (c :: text).takeWhile (!isBlank ·) :: words ((c :: text).dropWhile (!isBlank ·)) := by
  have isWord : IsWord ((c :: text).takeWhile (!isBlank ·)) := by
    refine ⟨by simp [solid], ?_⟩
    intro other member
    simpa using List.mem_takeWhile_imp member
  have ends : EndsWord ((c :: text).dropWhile (!isBlank ·)) := by
    intro other atHead
    have head := List.head?_dropWhile_not (fun c => !isBlank c) (c :: text)
    rw [Option.mem_def] at atHead
    simpa [atHead] using head
  rw [← words_append_of_endsWord isWord ends, List.takeWhile_append_dropWhile]

/-- Trimming takes away blanks at both ends and nothing else. -/
theorem exists_trim (text : Text) :
    ∃ front back, text = front ++ (trim text ++ back) ∧ (∀ c ∈ front, isBlank c = true) ∧
      ∀ c ∈ back, isBlank c = true := by
  have atEnd : (trimStart text).reverse = (trimStart text).reverse.takeWhile isBlank ++
      (trimStart text).reverse.dropWhile isBlank := List.takeWhile_append_dropWhile.symm
  refine ⟨text.takeWhile isBlank, ((trimStart text).reverse.takeWhile isBlank).reverse, ?_, ?_, ?_⟩
  · rw [trim, trimEnd, ← List.reverse_append, ← atEnd, List.reverse_reverse, trimStart,
      List.takeWhile_append_dropWhile]
  · exact fun c member => List.mem_takeWhile_imp member
  · exact fun c member => List.mem_takeWhile_imp (List.mem_reverse.1 member)

theorem dropWhile_isBlank_word_append (isWord : IsWord word) (after : Text) :
    (word ++ after).dropWhile isBlank = word ++ after := by
  cases word with
  | nil => exact absurd rfl isWord.1
  | cons c rest => simp [isWord.2 c List.mem_cons_self]

/-- Blanks around a word are trimmed, and nothing of the word is. -/
theorem trim_blanks_word_blanks (isWord : IsWord word) {front back : Text}
    (frontBlank : ∀ c ∈ front, isBlank c = true) (backBlank : ∀ c ∈ back, isBlank c = true) :
    trim (front ++ (word ++ back)) = word := by
  have isWordReversed : IsWord word.reverse :=
    ⟨by simpa using isWord.1, fun c member => isWord.2 c (List.mem_reverse.1 member)⟩
  have backReversed : ∀ c ∈ back.reverse, isBlank c = true :=
    fun c member => backBlank c (List.mem_reverse.1 member)
  have atEnd := dropWhile_isBlank_word_append isWordReversed []
  rw [List.append_nil] at atEnd
  rw [trim, trimStart, List.dropWhile_append_of_pos frontBlank,
    dropWhile_isBlank_word_append isWord, trimEnd, List.reverse_append,
    List.dropWhile_append_of_pos backReversed, atEnd, List.reverse_reverse]

/-- A word has nothing to trim. -/
theorem trim_eq_self (isWord : IsWord word) : trim word = word := by
  have trimmed : trim ([] ++ (word ++ [])) = word :=
    trim_blanks_word_blanks isWord (by simp) (by simp)
  rwa [List.nil_append, List.append_nil] at trimmed

theorem exists_trim_eq_cons (solid : isBlank c = false) (rest : Text) :
    ∃ trimmed, trim (c :: rest) = c :: trimmed := by
  have start : trimStart (c :: rest) = c :: rest := by
    simp [trimStart, solid]
  rw [trim, start, trimEnd, List.reverse_cons, List.dropWhile_append]
  split
  · exact ⟨[], by simp [solid]⟩
  · exact ⟨(rest.reverse.dropWhile isBlank).reverse, by simp⟩

/-- A text that starts with a word has this word at the start of its first one. -/
theorem exists_words_append_eq_cons (isWord : IsWord word) (after : Text) :
    ∃ rest later, words (word ++ after) = (word ++ rest) :: later := by
  cases word with
  | nil => exact absurd rfl isWord.1
  | cons c word =>
      have solid : ∀ other ∈ c :: word, (!isBlank other) = true := by
        intro other member
        simp [isWord.2 other member]
      rw [List.cons_append, words_cons_of_not_blank (isWord.2 c List.mem_cons_self),
        ← List.cons_append, List.takeWhile_append_of_pos solid]
      exact ⟨_, _, rfl⟩

theorem not_blank_of_trimStart_eq_cons {rest : Text} (trimmed : trimStart text = c :: rest) :
    isBlank c = false := by
  have head := List.head?_dropWhile_not isBlank text
  rw [trimStart] at trimmed
  simpa [trimmed] using head

@[simp]
theorem join_cons_cons (first second : Text) (later : List Text) :
    join " " (first :: second :: later) = first ++ ' ' :: join " " (second :: later) := by
  simp [join, List.intercalate_cons_cons]

@[simp]
theorem join_singleton (word : Text) : join " " [word] = word := by
  simp [join]

/-- Words are read back from a text that has them between single blanks. -/
theorem words_join {pieces : List Text} (isWord : ∀ piece ∈ pieces, IsWord piece) :
    words (join " " pieces) = pieces := by
  induction pieces with
  | nil => rfl
  | cons first pieces ih =>
      have firstWord := isWord first List.mem_cons_self
      have later := ih fun piece member => isWord piece (List.mem_cons_of_mem _ member)
      cases pieces with
      | nil => rw [join_singleton, words_of_isWord firstWord]
      | cons second pieces =>
          rw [join_cons_cons, words_append_blank _ _ (by decide), words_of_isWord firstWord, later,
            List.singleton_append]

/-- Words with single blanks between them are read back. -/
@[simp]
theorem words_join_words : words (join " " (words text)) = words text :=
  words_join fun _ member => (isWord_of_mem_words member).1

theorem mem_of_mem_join {pieces : List Text} (member : c ∈ join " " pieces) :
    c = ' ' ∨ ∃ piece ∈ pieces, c ∈ piece := by
  induction pieces with
  | nil => cases member
  | cons first pieces ih =>
      cases pieces with
      | nil =>
          rw [join_singleton] at member
          exact .inr ⟨first, List.mem_cons_self, member⟩
      | cons second pieces =>
          rw [join_cons_cons, List.mem_append, List.mem_cons] at member
          rcases member with inFirst | rfl | inLater
          · exact .inr ⟨first, List.mem_cons_self, inFirst⟩
          · exact .inl rfl
          · rcases ih inLater with blank | ⟨piece, pieceMem, inPiece⟩
            · exact .inl blank
            · exact .inr ⟨piece, List.mem_cons_of_mem _ pieceMem, inPiece⟩

end PseudoAsm.Text
