import PseudoAsm.Proofs.Statement.Readers
import PseudoAsm.Proofs.Template.Rendering

/-!
# Lines that templates are filled to

Markers start with one of few capital letters, so a template is the same as its filled line up to
the first of these letters. What follows is read by readers that do not tell one word from another:
as far as they go, the line looks like the template.
-/

namespace PseudoAsm

namespace Marker

/-- The characters that markers start with. -/
def initials : Text := "RLVP".toList

theorem startOf?_eq_none_of_not_mem_initials {c : Char} (literal : c ∉ initials) (rest : Text) :
    startOf? (c :: rest) = none := by
  have starts : ∀ marker ∈ all, marker.text.head?.any initials.contains = true := by
    decide
  rw [startOf?, List.find?_eq_none]
  intro marker member isPrefix
  rcases (Option.any_eq_true _ _).1 (starts marker member) with ⟨first, head, initial⟩
  rw [List.head?_eq_some_iff] at head
  rcases head with ⟨later, text⟩
  rw [text, List.isPrefixOf_iff_prefix, List.cons_prefix_cons] at isPrefix
  exact literal (isPrefix.1 ▸ List.contains_iff_mem.1 initial)

theorem isPlain_text (marker : Marker) : Text.IsPlain marker.text := by
  have letters : marker.letters ≠ [] ∧ ∀ c ∈ marker.letters, Text.isPlainCharacter c = true := by
    cases marker with
    | operand position =>
        change "RG".toList ≠ [] ∧ ∀ c ∈ "RG".toList, Text.isPlainCharacter c = true
        decide
    | part source half position =>
        change source.letters ++ [half.letter] ≠ [] ∧
          ∀ c ∈ source.letters ++ [half.letter], Text.isPlainCharacter c = true
        cases source <;> cases half <;> decide
    | label => decide
  unfold Marker.text
  cases marker.position? with
  | none => exact letters
  | some position =>
      refine ⟨by simp [letters.1], ?_⟩
      intro c member
      rcases List.mem_append.1 member with inLetters | inPosition
      · exact letters.2 c inLetters
      · exact (Text.isPlain_ofNat position).2 c inPosition

end Marker

variable {site : Site} {labelMet : Bool} {text before rest : Text}

/-- Text without the first letters of markers is copied. -/
theorem scan_append (literal : ∀ c ∈ before, c ∉ Marker.initials) :
    scan site labelMet (before ++ rest) = before ++ scan site labelMet rest := by
  induction before with
  | nil => rfl
  | cons c before ih =>
      have absent :=
        Marker.startOf?_eq_none_of_not_mem_initials (literal c List.mem_cons_self) (before ++ rest)
      rw [List.cons_append, scan_cons_of_startOf?_eq_none absent,
        ih fun c member => literal c (List.mem_cons_of_mem _ member), List.cons_append]

namespace Template

/-- Filling a template starts where its first marker may stand. -/
theorem fill_ofText_append (literal : ∀ c ∈ before, c ∉ Marker.initials) :
    (ofText (before ++ rest)).fill site = before ++ (ofText rest).fill site := by
  rw [fill, fillings, text_fillingsAfter_ofText, scan_append literal, ← text_fillingsAfter_ofText]
  rfl

theorem fill_ofText_cons_of_leading?_eq_none {c : Char}
    (literal : Marker.leading? (c :: rest) = none) :
    (ofText (c :: rest)).fill site = c :: (ofText rest).fill site := by
  rw [ofText_cons_of_none literal]
  exact text_fillingsAfter_prepend site false c _

/-- A marker at the start of a line stands for what comes first in the filled line. -/
theorem exists_fill_ofText_eq_append {marker : Marker} (starts : Marker.leading? text = some marker)
    (notLabel : marker ≠ .label) :
    ∃ after, (ofText text).fill site = site.rendering marker ++ after := by
  cases text with
  | nil => cases starts
  | cons c rest =>
      rw [ofText_cons_of_some starts]
      exact ⟨_, text_fillingsAfter_cons_of_ne_label site false _ notLabel⟩

@[simp]
theorem markers_prepend (c : Char) (template : Template) :
    (prepend c template).markers = template.markers := by
  unfold prepend
  split
  · rfl
  · rfl

theorem markers_ofText_append (literal : ∀ c ∈ before, c ∉ Marker.initials) :
    (ofText (before ++ rest)).markers = (ofText rest).markers := by
  induction before with
  | nil => rfl
  | cons c before ih =>
      have absent :=
        Marker.startOf?_eq_none_of_not_mem_initials (literal c List.mem_cons_self) (before ++ rest)
      rw [Marker.startOf?_eq_leading?] at absent
      rw [List.cons_append, ofText_cons_of_none absent, markers_prepend]
      exact ih fun c member => literal c (List.mem_cons_of_mem _ member)

theorem mem_markers_of_leading? {marker : Marker} (starts : Marker.leading? text = some marker) :
    marker ∈ (ofText text).markers := by
  cases text with
  | nil => cases starts
  | cons c rest =>
      rw [ofText_cons_of_some starts, markers_cons_marker]
      exact List.mem_cons_self

@[simp]
theorem toText_prepend (c : Char) (template : Template) :
    (prepend c template).toText = c :: template.toText := by
  unfold prepend
  split
  · rfl
  · rfl

/-- Nothing of a line is lost in its template. -/
@[simp]
theorem toText_ofText (text : Text) : (ofText text).toText = text := by
  induction text using ofText_induction with
  | nil => rfl
  | literal c rest absent ih => rw [ofText_cons_of_none absent, toText_prepend, ih]
  | marker marker rest member ih =>
      rw [ofText_text_append member, toText, List.flatMap_cons, ← toText, ih, Segment.text]

open Statement

variable {template : Template}

/-- A tidy line stays tidy if its markers stand for words. -/
theorem isTidy_fill
    (words : ∀ marker ∈ template.markers, IsSourceWord (site.rendering marker)) :
    isTidy (template.fill site) = isTidy template.toText := by
  rw [isTidy, isTidy, foldl_fill]
  intro marker member spacing
  rw [Spacing.foldl_step_of_isSourceWord (words marker member),
    Spacing.foldl_step_of_isSourceWord (isSourceWord_of_isPlain marker.isPlain_text)]

/-- Markers that stand for operands are one operand each, as they are in the template. -/
theorem length_splitOperands_fill
    (operands : ∀ marker ∈ template.markers, IsOperand (site.rendering marker)) :
    (splitOperands (template.fill site)).length = (splitOperands template.toText).length := by
  rw [length_splitOperands, length_splitOperands, foldl_fill]
  intro marker member state
  rw [OperandCount.foldl_step_of_isOperand (operands marker member),
    OperandCount.foldl_step_of_isOperand (isOperand_of_isPlain marker.isPlain_text)]

/-- The operands before the first comma are those of the template, if it has no markers there. -/
theorem exists_splitOperands_fill_eq_append
    (literal : ∀ c ∈ text.takeWhile (· != ','), c ∉ Marker.initials) :
    ∃ later, splitOperands ((ofText text).fill site) =
      splitOperands (text.takeWhile (· != ',')) ++ later := by
  have parts : text.takeWhile (· != ',') ++ text.dropWhile (· != ',') = text :=
    List.takeWhile_append_dropWhile
  have filled : (ofText text).fill site =
      text.takeWhile (· != ',') ++ (ofText (text.dropWhile (· != ','))).fill site := by
    rw [← fill_ofText_append literal, parts]
  rw [filled]
  cases after : text.dropWhile (· != ',') with
  | nil => exact ⟨[], by simp [ofText, ofTextFrom]⟩
  | cons c rest =>
      have comma : c = ',' := by
        have head := List.head?_dropWhile_not (· != ',') text
        simpa [after] using head
      subst comma
      have single : ∀ c ∈ [','], c ∉ Marker.initials := by decide
      have filledRest : (ofText (',' :: rest)).fill site = ',' :: (ofText rest).fill site :=
        fill_ofText_append single
      rw [filledRest, splitOperands_append_separator _ _ (by decide)]
      exact ⟨_, rfl⟩

end Template

end PseudoAsm
