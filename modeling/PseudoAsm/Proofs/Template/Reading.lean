import Mathlib.Data.List.Chain
import Mathlib.Data.List.Pairwise
import Mathlib.Data.Set.Pairwise.Basic
import PseudoAsm.Proofs.Template.Overlap

/-!
# What a text is read as

A text is read as a template without loss: the pieces, written one after the other, are the text
again. No literal piece is empty, and there is a marker between any two of them. And all markers are
found: wherever the text of a marker stands, a piece starts that is this marker, and there is no
marker anywhere else. Two markers in a text never overlap, so none can be missed because another one
was taken.
-/

namespace PseudoAsm

namespace Segment

/-- Whether a segment is literal text. -/
def isLiteral : Segment → Bool
  | .literal _ => true
  | .marker _ => false

end Segment

namespace Template

/-- A marker and the place where it starts, counted in characters from the start of a text. -/
structure Place where
  start : Nat
  marker : Marker
  deriving DecidableEq, Repr

namespace Place

/-- Where the marker ends. -/
def stop (place : Place) : Nat :=
  place.start + place.marker.text.length

/-- The place when so many characters are put in front of the text. -/
def moveBy (distance : Nat) (place : Place) : Place :=
  ⟨distance + place.start, place.marker⟩

/-- Whether the marker stands in a text at its place. -/
def IsIn (place : Place) (text : Text) : Prop :=
  place.marker ∈ Marker.all ∧ place.marker.text <+: text.drop place.start

/-- Whether one marker ends before the other one starts. -/
def Precedes (first second : Place) : Prop :=
  first.stop ≤ second.start

/-- Two places that have no character in common. -/
def Apart (first second : Place) : Prop :=
  first.Precedes second ∨ second.Precedes first

instance : Std.Symm Apart :=
  ⟨fun _ _ => Or.symm⟩

variable {place : Place} {front rest : Text} {marker : Marker}

theorem isIn_moveBy_iff : (place.moveBy front.length).IsIn (front ++ rest) ↔ place.IsIn rest := by
  rw [IsIn, IsIn, moveBy, List.drop_length_add_append]

/-- Where no marker starts, all markers are in the rest. -/
theorem isIn_cons_iff {c : Char} (absent : Marker.leading? (c :: rest) = none) :
    place.IsIn (c :: rest) ↔ ∃ later : Place, later.IsIn rest ∧ place = later.moveBy 1 := by
  constructor
  · rintro ⟨member, occurs⟩
    rcases place with ⟨_ | start, marker⟩
    · have starts := Marker.leading?_eq_some_iff.2 ⟨member, occurs⟩
      cases absent.symm.trans starts
    · exact ⟨⟨start, marker⟩, ⟨member, occurs⟩, by rw [moveBy, Nat.add_comm]⟩
  · rintro ⟨later, isIn, rfl⟩
    exact (@isIn_moveBy_iff later [c] rest).2 isIn

/-- At the start of a marker and inside it no other marker starts. -/
theorem eq_of_isIn_of_start_lt (member : marker ∈ Marker.all)
    (isIn : place.IsIn (marker.text ++ rest)) (inside : place.start < marker.text.length) :
    place = ⟨0, marker⟩ := by
  rcases place with ⟨_ | start, other⟩
  · exact congrArg _ (Marker.eq_of_text_isPrefix member isIn.1 isIn.2)
  · have dropped : (marker.text ++ rest).drop (start + 1) =
        marker.text.tail.drop start ++ rest := by
      rw [List.drop_append_of_le_length (Nat.le_of_lt inside), ← List.drop_one, List.drop_drop,
        Nat.add_comm]
    have nonempty : marker.text.tail.drop start ≠ [] := by
      rw [Ne, List.drop_eq_nil_iff, List.length_tail]
      change start + 1 < marker.text.length at inside
      omega
    have starts : other.text <+: marker.text.tail.drop start ++ rest := dropped ▸ isIn.2
    exact absurd starts
      (Marker.avoids_tail_text member isIn.1 _ (List.drop_suffix _ _) nonempty rest)

/-- Behind a marker at the start, all others are in the rest. -/
theorem isIn_text_append_iff (member : marker ∈ Marker.all) :
    place.IsIn (marker.text ++ rest) ↔
      place = ⟨0, marker⟩ ∨
        ∃ later : Place, later.IsIn rest ∧ place = later.moveBy marker.text.length := by
  constructor
  · intro isIn
    rcases Nat.lt_or_ge place.start marker.text.length with inside | behind
    · exact .inl (eq_of_isIn_of_start_lt member isIn inside)
    · have moved : place =
          moveBy marker.text.length ⟨place.start - marker.text.length, place.marker⟩ := by
        rw [moveBy, Nat.add_sub_cancel' behind]
      rw [moved, isIn_moveBy_iff] at isIn
      exact .inr ⟨_, isIn, moved⟩
  · rintro (rfl | ⟨later, isIn, rfl⟩)
    · exact ⟨member, List.prefix_append _ _⟩
    · exact isIn_moveBy_iff.2 isIn

end Place

/-- The markers of a template with their places in its text, from left to right. -/
def places : Template → List Place
  | [] => []
  | .literal text :: rest => (places rest).map (.moveBy text.length)
  | .marker marker :: rest => ⟨0, marker⟩ :: (places rest).map (.moveBy marker.text.length)

/-- Literal pieces hold something, and no two of them are neighbours. -/
structure IsCanonical (template : Template) : Prop where
  nonempty : .literal [] ∉ template
  apart : template.IsChain fun first second => first.isLiteral = true → second.isLiteral = false

variable {c : Char} {template : Template}

@[simp]
theorem places_prepend : (prepend c template).places = template.places.map (.moveBy 1) := by
  rcases template with _ | ⟨text | marker, rest⟩
  · rfl
  · rw [prepend, places, places, List.map_map, List.length_cons]
    refine List.map_congr_left fun place _ => ?_
    simp only [Function.comp_apply, Place.moveBy, Place.mk.injEq, and_true]
    omega
  · rfl

theorem IsCanonical.prepend (canonical : template.IsCanonical) (c : Char) :
    (template.prepend c).IsCanonical := by
  rcases canonical with ⟨nonempty, apart⟩
  rcases template with _ | ⟨text | marker, rest⟩
  · exact ⟨by simp [Template.prepend], .singleton _⟩
  · rw [List.isChain_cons] at apart
    rw [List.mem_cons, not_or] at nonempty
    refine ⟨by simpa [Template.prepend] using nonempty.2, List.isChain_cons.2 apart⟩
  · refine ⟨by simpa [Template.prepend] using nonempty, List.isChain_cons_cons.2 ⟨?_, apart⟩⟩
    exact fun _ => rfl

theorem IsCanonical.cons_marker (canonical : template.IsCanonical) (marker : Marker) :
    IsCanonical (.marker marker :: template) := by
  rcases canonical with ⟨nonempty, apart⟩
  refine ⟨by simpa using nonempty, List.isChain_cons.2 ⟨?_, apart⟩⟩
  exact fun _ _ literal => absurd literal Bool.false_ne_true

/-- No two literals are neighbours, and none is empty. -/
theorem isCanonical_ofText (text : Text) : (ofText text).IsCanonical := by
  induction text using ofText_induction with
  | nil => exact ⟨List.not_mem_nil, .nil⟩
  | literal c rest absent ih =>
      rw [ofText_cons_of_none absent]
      exact ih.prepend c
  | marker marker rest member ih =>
      rw [ofText_text_append member]
      exact ih.cons_marker marker

/-- The markers of a template are found exactly where they stand in the text. -/
theorem mem_places_ofText_iff {text : Text} {place : Place} :
    place ∈ (ofText text).places ↔ place.IsIn text := by
  induction text using ofText_induction generalizing place with
  | nil =>
      have empty : place.marker.text ≠ [] := place.marker.text_ne_nil
      simp [ofText, ofTextFrom, places, Place.IsIn, empty]
  | literal c rest absent ih =>
      rw [ofText_cons_of_none absent, places_prepend, List.mem_map, Place.isIn_cons_iff absent]
      simp only [ih, eq_comm]
  | marker marker rest member ih =>
      rw [ofText_text_append member, places, List.mem_cons, List.mem_map,
        Place.isIn_text_append_iff member]
      simp only [ih, eq_comm]

/-- Markers are read from left to right. -/
theorem pairwise_places (template : Template) : template.places.Pairwise Place.Precedes := by
  induction template with
  | nil => exact .nil
  | cons segment template ih =>
      have moved : ∀ distance,
          ((places template).map (Place.moveBy distance)).Pairwise Place.Precedes := by
        intro distance
        rw [List.pairwise_map]
        refine ih.imp fun precedes => ?_
        simp only [Place.Precedes, Place.stop, Place.moveBy] at precedes ⊢
        omega
      cases segment with
      | literal text => exact moved text.length
      | marker marker =>
          refine .cons (fun place member => ?_) (moved marker.text.length)
          rcases List.mem_map.1 member with ⟨later, _, rfl⟩
          simp only [Place.Precedes, Place.stop, Place.moveBy]
          omega

/-- No two occurrences of markers have a character in common. -/
theorem pairwise_apart (text : Text) : {place : Place | place.IsIn text}.Pairwise Place.Apart := by
  have apart : (ofText text).places.Pairwise Place.Apart := (pairwise_places _).imp .inl
  simpa only [mem_places_ofText_iff] using apart.set_pairwise

/-- Nothing is lost when a text is read, its literal pieces are as long as they can be, and its
markers are read exactly where they stand, which is never in one another. -/
theorem text_is_read_completely (text : Text) :
    (ofText text).toText = text ∧
    (ofText text).IsCanonical ∧
    (∀ place : Place, place ∈ (ofText text).places ↔ place.IsIn text) ∧
    (ofText text).places.Pairwise Place.Precedes ∧
    {place : Place | place.IsIn text}.Pairwise Place.Apart :=
  ⟨toText_ofText text, isCanonical_ofText text, fun _ => mem_places_ofText_iff,
    pairwise_places _, pairwise_apart text⟩

/-- Only one digit belongs to a marker, and what begins like a longer one may hold another. -/
example : (ofText "PCLAB RG12LL3".toList).places =
    [⟨2, .label⟩, ⟨6, .operand 1⟩, ⟨10, .part .label .low 3⟩] := by
  decide

end Template

end PseudoAsm
