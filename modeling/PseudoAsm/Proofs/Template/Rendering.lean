import PseudoAsm.Proofs.Template.Scan

/-!
# What a filled template depends on

Literal text is the same at every site, so a template is filled alike at two sites where each of its
markers stands for the same text. And a reader that goes through a line character by character comes
out of the filled line as it comes out of the template itself, if it takes what stands for a marker
like the text of the marker.
-/

namespace PseudoAsm.Template

/-- The markers of a template, from left to right. -/
def markers (template : Template) : List Marker :=
  template.filterMap fun segment =>
    match segment with
    | .literal _ => none
    | .marker marker => some marker

variable {site other : Site} {template : Template}

@[simp]
theorem markers_cons_literal (text : Text) (rest : Template) :
    markers (.literal text :: rest) = markers rest := rfl

@[simp]
theorem markers_cons_marker (marker : Marker) (rest : Template) :
    markers (.marker marker :: rest) = marker :: markers rest := rfl

/-- Only what stands for the markers of the template matters. -/
theorem text_fillingsAfter_congr (labelMet : Bool)
    (same : ∀ marker ∈ template.markers, site.rendering marker = other.rendering marker) :
    (fillingsAfter site labelMet template).flatMap Filling.text =
      (fillingsAfter other labelMet template).flatMap Filling.text := by
  induction template generalizing labelMet with
  | nil => rfl
  | cons segment template ih =>
      cases segment with
      | literal text =>
          rw [markers_cons_literal] at same
          simp only [fillingsAfter, List.flatMap_cons, ih labelMet same]
      | marker marker =>
          rw [markers_cons_marker] at same
          have sameMarker := same marker List.mem_cons_self
          have sameLater := fun marker member => same marker (List.mem_cons_of_mem _ member)
          by_cases isLabel : marker = .label
          · subst isLabel
            rw [text_fillingsAfter_cons_label, text_fillingsAfter_cons_label, sameMarker,
              ih true sameLater]
          · rw [text_fillingsAfter_cons_of_ne_label _ _ _ isLabel,
              text_fillingsAfter_cons_of_ne_label _ _ _ isLabel, sameMarker, ih labelMet sameLater]

/-- A template is filled alike wherever its markers stand for the same texts. -/
theorem fill_congr
    (same : ∀ marker ∈ template.markers, site.rendering marker = other.rendering marker) :
    template.fill site = template.fill other :=
  text_fillingsAfter_congr false same

variable {State : Type} {step : State → Char → State}

/-- A reader that cannot tell what stands for a marker from the marker comes out in the same state.
-/
theorem foldl_text_fillingsAfter (labelMet : Bool) (state : State)
    (same : ∀ marker ∈ template.markers, ∀ state,
      (site.rendering marker).foldl step state = marker.text.foldl step state) :
    ((fillingsAfter site labelMet template).flatMap Filling.text).foldl step state =
      template.toText.foldl step state := by
  induction template generalizing labelMet state with
  | nil => rfl
  | cons segment template ih =>
      rw [toText, List.flatMap_cons, ← toText, List.foldl_append]
      cases segment with
      | literal text =>
          rw [markers_cons_literal] at same
          rw [fillingsAfter, List.flatMap_cons, List.foldl_append, ih labelMet _ same]
          rfl
      | marker marker =>
          rw [markers_cons_marker] at same
          have sameMarker := same marker List.mem_cons_self
          have sameLater := fun marker member => same marker (List.mem_cons_of_mem _ member)
          by_cases isLabel : marker = .label
          · -- The first label marker may be followed by others, which are left as they stand.
            subst isLabel
            rw [text_fillingsAfter_cons_label, List.foldl_append, ih true _ sameLater]
            split
            · rfl
            · rw [sameMarker]
              rfl
          · rw [text_fillingsAfter_cons_of_ne_label _ _ _ isLabel, List.foldl_append,
              ih labelMet _ sameLater, sameMarker]
            rfl

/-- A reader that takes what stands for a marker like the marker takes the line like the template.
-/
theorem foldl_fill (state : State)
    (same : ∀ marker ∈ template.markers, ∀ state,
      (site.rendering marker).foldl step state = marker.text.foldl step state) :
    (template.fill site).foldl step state = template.toText.foldl step state :=
  foldl_text_fillingsAfter false state same

end PseudoAsm.Template
