import PseudoAsm.Template.Fill

/-!
# Filling a template piece by piece

All markers but the label markers are filled the same way wherever they stand. A label marker is
filled if it is the first one, so a template is filled up to its first label marker as if this was
its end.
-/

namespace PseudoAsm

namespace Site

variable {site : Site}

theorem fill_label_of_length_lt (short : site.words.length < 2) :
    site.fill .label = .error .noOperand := by
  rcases site with ⟨_ | ⟨mnemonic, _ | ⟨operand, operands⟩⟩, pc, scope⟩
  · rfl
  · rfl
  · simp only [List.length_cons] at short
    omega

/-- The label marker stands for the address that the last word spells. -/
theorem fill_label_of_getLast? {word : Text} (long : 2 ≤ site.words.length)
    (last : site.words.getLast? = some word) :
    site.fill .label =
      match site.scope.resolve word with
      | .error cause => .error (.unresolved cause word)
      | .ok label => .ok label := by
  rcases site with ⟨_ | ⟨mnemonic, _ | ⟨operand, operands⟩⟩, pc, scope⟩
  · simp at long
  · simp at long
  · have lastOperand : (operand :: operands).getLast (List.cons_ne_nil _ _) = word := by
      rw [List.getLast?_cons_cons, List.getLast?_eq_some_getLast (List.cons_ne_nil _ _),
        Option.some.injEq] at last
      exact last
    subst lastOperand
    rfl

theorem fill_operand {position : Nat} {word : Text} (operand : site.words[position]? = some word) :
    site.fill (.operand position) = .ok word := by
  simp only [fill, operand]

theorem fill_part {source : Source} {half : Half} {position : Nat} {word : Text} {value : Word}
    (operand : site.words[position]? = some word) (spelt : Numeral.word? word = some value) :
    site.fill (.part source half position) =
      .ok (Text.ofInt (half.field (source.split value site.pc))) := by
  simp only [fill, operand, spelt]

end Site

namespace Template

variable {site : Site}

/-- All that a template takes from a site is what fills the markers. -/
theorem fillings_congr_site {other : Site} (same : ∀ marker, site.fill marker = other.fill marker)
    (template : Template) : template.fillings site = template.fillings other := by
  have sameAfter : ∀ labelMet,
      fillingsAfter site labelMet template = fillingsAfter other labelMet template := by
    induction template with
    | nil => simp [fillingsAfter]
    | cons segment template ih =>
        intro labelMet
        rcases segment with text | marker
        · simp [fillingsAfter, ih]
        · cases marker <;> simp [fillingsAfter, same, ih]
  exact sameAfter false

/-- Sites that fill all markers alike fill all templates alike. -/
theorem fill_congr_site {other : Site} (same : ∀ marker, site.fill marker = other.fill marker) :
    fill site = fill other := by
  funext template
  simp only [fill, fillings_congr_site same]

theorem notes_congr_site {other : Site} (same : ∀ marker, site.fill marker = other.fill marker) :
    notes site = notes other := by
  funext template
  simp only [notes, fillings_congr_site same]

theorem fill_cons_operand {position : Nat} {word : Text} {rest : Template}
    (operand : site.words[position]? = some word) :
    fill site (.marker (.operand position) :: rest) = word ++ fill site rest := by
  simp only [fill, fillings, fillingsAfter, Site.fill_operand operand, Filling.ofMarker,
    List.flatMap_cons, Filling.text]

theorem fill_cons_part {source : Source} {half : Half} {position : Nat} {word : Text} {value : Word}
    {rest : Template} (operand : site.words[position]? = some word)
    (spelt : Numeral.word? word = some value) :
    fill site (.marker (.part source half position) :: rest) =
      Text.ofInt (half.field (source.split value site.pc)) ++ fill site rest := by
  simp only [fill, fillings, fillingsAfter, Site.fill_part operand spelt, Filling.ofMarker,
    List.flatMap_cons, Filling.text]

/-- Before its first label marker, a template is filled as if it ended there. -/
theorem fillingsAfter_append_of_not_mem {labelMet : Bool} {before after : Template}
    (absent : Segment.marker .label ∉ before) :
    fillingsAfter site labelMet (before ++ after) =
      fillingsAfter site labelMet before ++ fillingsAfter site labelMet after := by
  induction before with
  | nil => rfl
  | cons segment before ih =>
      rw [List.mem_cons, not_or] at absent
      rcases absent with ⟨notLabel, absentLater⟩
      cases segment with
      | literal text => simp [fillingsAfter, ih absentLater]
      | marker marker =>
          cases marker with
          | label => exact absurd rfl notLabel
          | operand position => simp [fillingsAfter, ih absentLater]
          | part source half position => simp [fillingsAfter, ih absentLater]

/-- A label marker that can be filled is filled if it is the first one. -/
theorem fill_append_label {before after : Template} {name : Text}
    (absent : Segment.marker .label ∉ before) (filled : site.fill .label = .ok name) :
    fill site (before ++ .marker .label :: after) =
      fill site before ++ name ++ (fillingsAfter site true after).flatMap Filling.text := by
  simp [fill, fillings, fillingsAfter_append_of_not_mem absent, fillingsAfter, filled,
    Filling.ofMarker, Filling.text]

end Template

end PseudoAsm
