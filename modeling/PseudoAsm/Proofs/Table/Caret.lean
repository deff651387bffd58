import Mathlib.Data.List.Infix
import PseudoAsm.Proofs.Table.Rejection

/-!
# Where the caret points

When a line has a second field that stands before compact templates, the line is shown with a caret
below it. The caret stands under the last mention of the mark on the line, character for character.
This is the field at fault unless the mark is mentioned again behind its first character: in the
field itself, in a later template or in the description, as in `mentionedLine`.
-/

namespace PseudoAsm

namespace Diagnostic

/-- The line is shown set in by four blanks, and below it a caret under the character at the place,
which is counted from zero. -/
def PointsAt (diagnostic : Diagnostic) (line : Text) (place : Nat) : Prop :=
  diagnostic.render = Text.join "\n" (diagnostic.headline :: ("    ".toList ++ line) ::
    (List.replicate (4 + place) ' ' ++ ['^']) :: diagnostic.hintLine)

/-- A column shows as a caret under the character at this place. -/
theorem pointsAt_of_column {diagnostic : Diagnostic} {location : Location} {line : Text}
    {place : Nat} (isLocation : diagnostic.location = some location)
    (isLine : diagnostic.sourceLine = some line) (column : location.column = place + 1) :
    diagnostic.PointsAt line place := by
  have positive : 0 < location.column := by omega
  have blanks : (location.column + 3).toNat = 4 + place := by omega
  simp only [PointsAt, render, excerpt, isLocation, isLine, if_pos positive, caretLine, blanks,
    List.cons_append, List.nil_append]

end Diagnostic

namespace Table

/-- Pieces with their places in the line that they make, with one tab between two of them. -/
def placePieces (start : Nat) : List Text → List (Nat × Text)
  | [] => []
  | piece :: pieces => (start, piece) :: placePieces (start + piece.length + 1) pieces

/-- The fields of a line with their places in it. -/
def placedFields (line : Text) : List (Nat × Text) :=
  (placePieces 0 (line.splitOn '\t')).filter (!·.2.isEmpty)

/-- The second field behind the usage that starts with the mark, and its place. -/
def secondMark? (line : Text) : Option (Nat × Text) :=
  ((placedFields line).tail.filter (compactMark <+: ·.2))[1]?

/-- The last occurrence of a text is one, and there is none behind it. -/
theorem lastOccurrence?_cases {pattern : Text} (nonempty : pattern ≠ []) (text : Text) :
    (lastOccurrence? pattern text = none ∧ ∀ place, ¬ pattern <+: text.drop place) ∨
    ∃ place, lastOccurrence? pattern text = some place ∧ pattern <+: text.drop place ∧
      ∀ later, place < later → ¬ pattern <+: text.drop later := by
  induction text with
  | nil => exact .inl ⟨rfl, by simp [nonempty]⟩
  | cons c rest ih =>
      rcases ih with ⟨isNone, absent⟩ | ⟨place, isSome, occurs, last⟩
      · have behind : ∀ later, 0 < later → ¬ pattern <+: (c :: rest).drop later := by
          intro later positive
          rcases Nat.exists_eq_add_one.2 positive with ⟨before, rfl⟩
          exact absent before
        by_cases here : pattern <+: c :: rest
        · refine .inr ⟨0, ?_, here, behind⟩
          simp [lastOccurrence?, isNone, here]
        · refine .inl ⟨by simp [lastOccurrence?, isNone, here], ?_⟩
          intro place
          rcases Nat.eq_zero_or_pos place with rfl | positive
          · exact here
          · exact behind place positive
      · refine .inr ⟨place + 1, by simp [lastOccurrence?, isSome], occurs, ?_⟩
        intro later behind
        rcases Nat.exists_eq_add_one.2 (Nat.zero_lt_of_lt behind) with ⟨before, rfl⟩
        exact last before (Nat.lt_of_succ_lt_succ behind)

/-- A text that occurs at all has a last occurrence. -/
theorem exists_lastOccurrence? {pattern text : Text} {place : Nat} (nonempty : pattern ≠ [])
    (occurs : pattern <+: text.drop place) :
    ∃ last, lastOccurrence? pattern text = some last ∧ place ≤ last ∧
      pattern <+: text.drop last ∧ ∀ later, last < later → ¬ pattern <+: text.drop later := by
  rcases lastOccurrence?_cases nonempty text with ⟨_, absent⟩ | ⟨last, isSome, atLast, behind⟩
  · exact absurd occurs (absent place)
  · exact ⟨last, isSome, Nat.le_of_not_lt fun after => behind place after occurs, atLast, behind⟩

section PlacedFields

variable {line : Text}

@[simp]
theorem map_snd_placePieces (start : Nat) (pieces : List Text) :
    (placePieces start pieces).map Prod.snd = pieces := by
  induction pieces generalizing start with
  | nil => rfl
  | cons piece pieces ih => rw [placePieces, List.map_cons, ih]

/-- The fields with their places are the fields. -/
@[simp]
theorem map_snd_placedFields (line : Text) : (placedFields line).map Prod.snd = fields line := by
  rw [fields, ← map_snd_placePieces 0 (line.splitOn '\t'), List.filter_map]
  rfl

theorem isPrefix_of_mem_placePieces {placed : Nat × Text} {pieces : List Text} (front : Text)
    (member : placed ∈ placePieces front.length pieces) :
    placed.2 <+: (front ++ ['\t'].intercalate pieces).drop placed.1 := by
  -- Later pieces have the earlier ones in front of them, so what stands in front is left open.
  induction pieces generalizing front with
  | nil => cases member
  | cons piece pieces ih =>
      have starts : piece <+: ['\t'].intercalate (piece :: pieces) := by
        cases pieces with
        | nil => rw [List.intercalate_singleton]
        | cons second pieces =>
            rw [List.intercalate_cons_cons, List.append_assoc]
            exact List.prefix_append _ _
      rcases List.mem_cons.1 member with rfl | later
      · rwa [List.drop_left]
      · cases pieces with
        | nil => cases later
        | cons second pieces =>
            have behind := ih (front ++ (piece ++ ['\t'])) (by
              simpa only [List.length_append, List.length_singleton, Nat.add_assoc] using later)
            rwa [List.append_assoc, ← List.intercalate_cons_cons] at behind

/-- A field stands at its place. -/
theorem isPrefix_of_mem_placedFields {placed : Nat × Text} (member : placed ∈ placedFields line) :
    placed.2 <+: line.drop placed.1 := by
  have atPlace := isPrefix_of_mem_placePieces [] (List.mem_of_mem_filter member)
  rwa [List.nil_append, List.intercalate_splitOn] at atPlace

/-- A line with two marks before its description has a second mark, which stands at its place. -/
theorem exists_secondMark? (marks : 2 ≤ (compactMarks line).length) :
    ∃ offset field, secondMark? line = some (offset, field) ∧ compactMark <+: field ∧
      field <+: line.drop offset := by
  have enough : 1 < ((placedFields line).tail.filter (compactMark <+: ·.2)).length := by
    have allMarks : ((placedFields line).tail.filter (compactMark <+: ·.2)).map Prod.snd =
        (fields line).tail.filter (compactMark <+: ·) := by
      rw [← map_snd_placedFields, ← List.map_tail, List.filter_map]
      rfl
    have allLength := ((List.takeWhile_sublist (p := (·.head? ≠ some '#'))
      (l := (fields line).tail)).filter (compactMark <+: ·)).length_le
    rw [← allMarks, List.length_map] at allLength
    exact Nat.lt_of_lt_of_le marks allLength
  have member := List.mem_filter.1 (List.getElem_mem enough)
  exact ⟨_, _, List.getElem?_eq_getElem enough, of_decide_eq_true member.2,
    isPrefix_of_mem_placedFields (List.mem_of_mem_tail member.1)⟩

end PlacedFields

theorem isInfix_iff_exists_drop {pattern text : Text} :
    pattern <:+: text ↔ ∃ place, pattern <+: text.drop place := by
  constructor
  · rintro ⟨before, after, rfl⟩
    refine ⟨before.length, ?_⟩
    rw [List.append_assoc, List.drop_left]
    exact List.prefix_append _ _
  · rintro ⟨place, occurs⟩
    exact occurs.isInfix.trans (List.drop_suffix place text).isInfix

/-- A repeated mark is reported with the caret under the last mention of the mark on the line. It is
the second field with the mark exactly if nothing behind its first character mentions the mark. -/
theorem caret_marks_last_mention {file text usage : Text} {error : FormatError}
    (failed : ofText file text = .error error) (repeated : error.fault = .secondCompact usage) :
    ∃ offset field, secondMark? error.sourceLine = some (offset, field) ∧ compactMark <+: field ∧
      field <+: error.sourceLine.drop offset ∧
      ∃ shown : Nat, error.location.column = shown + 1 ∧
        error.diagnostic.PointsAt error.sourceLine shown ∧ offset ≤ shown ∧
        compactMark <+: error.sourceLine.drop shown ∧
        (∀ later, shown < later → ¬ compactMark <+: error.sourceLine.drop later) ∧
        (error.location.column = offset + 1 ↔
          ¬ compactMark <:+: error.sourceLine.drop (offset + 1)) := by
  rcases exists_of_ofText_eq_error failed with ⟨_, _, lineFault, _, _⟩
  generalize isColumn : error.location.column = column at lineFault
  rw [repeated] at lineFault
  cases lineFault with
  | secondCompact noTab isUsage marks =>
      rcases exists_secondMark? marks with ⟨offset, field, second, starts, atPlace⟩
      rcases exists_lastOccurrence? (by decide) (starts.trans atPlace) with
        ⟨shown, isShown, behind, occurs, last⟩
      have column : error.location.column = shown + 1 := by
        rw [isColumn, compactColumn, isShown, Option.getD_some, Int.natCast_add_one]
      refine ⟨offset, field, second, starts, atPlace, shown, isColumn ▸ column,
        Diagnostic.pointsAt_of_column rfl rfl column, behind, occurs, last, ?_⟩
      rw [← isColumn, column, isInfix_iff_exists_drop, not_exists]
      constructor
      · intro same place mention
        rw [List.drop_drop] at mention
        exact last _ (by omega) mention
      · intro absent
        have notBehind : ¬ offset < shown := by
          intro after
          refine absent (shown - (offset + 1)) ?_
          rwa [List.drop_drop, Nat.add_sub_cancel' after]
        omega

/-- A line with a second field for compact templates, and nothing behind it that mentions them. -/
def repeatedLine : Text :=
  "la t1,label\tlui RG1, LH2\tCOMPACT\taddi RG1, x0, LL2\tCOMPACT\tnop".toList

theorem caret_marks_last_mention_repeatedLine :
    ∃ error, ofText "ops.txt".toList repeatedLine = .error error ∧
      error.fault = .secondCompact "la t1,label".toList ∧
      secondMark? error.sourceLine = some (51, compactMark) ∧ error.location.column = 52 ∧
      error.diagnostic.PointsAt error.sourceLine 51 := by
  have failed : ofText "ops.txt".toList repeatedLine = .error
      ⟨.secondCompact "la t1,label".toList, ⟨"ops.txt".toList, 1, 52⟩, repeatedLine⟩ := by rfl
  rcases caret_marks_last_mention failed rfl with
    ⟨offset, field, second, _, _, shown, column, points, _, _, _, _⟩
  have place : secondMark? repeatedLine = some (51, compactMark) := by rfl
  have atShown : (52 : Int) = shown + 1 := column
  obtain rfl : shown = 51 := by omega
  exact ⟨_, failed, rfl, place, rfl, points⟩

/-- A line with a second field for compact templates whose description mentions the mark. -/
def mentionedLine : Text :=
  "j label\tCOMPACT\tjal x0, LAB\tCOMPACT\tnop\t#Jump (COMPACT: near)".toList

/-- The caret stands in the description, far behind the field at fault. -/
theorem caret_of_mentionedLine :
    ∃ error, ofText "ops.txt".toList mentionedLine = .error error ∧
      error.fault = .secondCompact "j label".toList ∧ error.sourceLine = mentionedLine ∧
      secondMark? mentionedLine = some (28, compactMark) ∧ error.location.column = 47 + 1 ∧
      error.diagnostic.PointsAt mentionedLine 47 :=
  ⟨⟨.secondCompact "j label".toList, ⟨"ops.txt".toList, 1, 48⟩, mentionedLine⟩,
    by rfl, rfl, rfl, by rfl, rfl, Diagnostic.pointsAt_of_column rfl rfl rfl⟩

end Table

end PseudoAsm
