import Mathlib.Data.List.Infix
import PseudoAsm.Proofs.Template.FilledLines
import PseudoAsm.Proofs.Text.Replace

/-!
# Markers do not overlap

A marker ends before the next one starts: behind its first character no other marker starts in it,
whatever stands behind it in the text. The only letter that markers start with and that stands
inside a marker is an `L`, and what follows it there starts no marker.
-/

namespace PseudoAsm.Marker

/-- No marker starts inside another one, nor does one run into another. -/
theorem text_apart : ∀ marker ∈ all, ∀ start ∈ marker.text.tail.tails,
    start.head?.any initials.contains = true →
      ∀ other ∈ all, ¬ other.text <+: start ∧ ¬ start <+: other.text := by
  decide +kernel

variable {marker other : Marker}

theorem not_isPrefix_cons {c : Char} (literal : c ∉ initials) (member : other ∈ all) (rest : Text) :
    ¬ other.text <+: c :: rest := by
  intro starts
  have absent := startOf?_eq_none_of_not_mem_initials literal rest
  rw [startOf?_eq_leading?, leading?_eq_some_iff.2 ⟨member, starts⟩] at absent
  cases absent

/-- No marker starts behind the first character of a marker. -/
theorem avoids_tail_text (member : marker ∈ all) (otherMember : other ∈ all) :
    Text.Avoids marker.text.tail other.text := by
  intro start inMarker nonempty rest starts
  cases start with
  | nil => exact nonempty rfl
  | cons c start =>
      by_cases initial : c ∈ initials
      · have isTail : c :: start ∈ marker.text.tail.tails := (List.mem_tails _ _).2 inMarker
        have apart := text_apart marker member _ isTail (by simpa using initial) other otherMember
        exact Text.not_isPrefix_append apart.1 apart.2 rest starts
      · exact not_isPrefix_cons initial otherMember _ starts

/-- At the start of a marker only the marker itself starts. -/
theorem eq_of_text_isPrefix (member : marker ∈ all) (otherMember : other ∈ all) {rest : Text}
    (starts : other.text <+: marker.text ++ rest) : other = marker := by
  have read := leading?_eq_some_iff.2 ⟨otherMember, starts⟩
  rw [leading?_eq_some_iff.2 ⟨member, List.prefix_append _ _⟩, Option.some.injEq] at read
  exact read.symm

/-- No marker starts in the text of another one. -/
theorem avoids_text (member : marker ∈ all) (otherMember : other ∈ all)
    (different : marker ≠ other) : marker.text.Avoids other.text := by
  intro start inMarker nonempty rest starts
  rcases List.exists_cons_of_ne_nil marker.text_ne_nil with ⟨first, later, spelt⟩
  rw [spelt, List.suffix_cons_iff] at inMarker
  rcases inMarker with whole | inside
  · rw [whole, ← spelt] at starts
    exact different (eq_of_text_isPrefix member otherMember starts).symm
  · have inTail : start <:+ marker.text.tail := by rwa [spelt, List.tail_cons]
    exact avoids_tail_text member otherMember start inTail nonempty rest starts

end PseudoAsm.Marker
