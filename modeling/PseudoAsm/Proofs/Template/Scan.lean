import PseudoAsm.Proofs.Template.Fill
import PseudoAsm.Proofs.Template.Markers
import PseudoAsm.Proofs.Word.Split

/-!
# Filling a template in one pass

A template is filled as if its text were read once from left to right, one character at a time.
Where a marker stands, what it stands for is put in its place and reading goes on after it, so no
text that was put in is read again. What a marker stands for depends on the words of the statement,
its address and the labels only; of the label markers the first one is filled and later ones stay.
-/

namespace PseudoAsm

namespace Marker

/-- The marker that a text starts with. -/
def startOf? (text : Text) : Option Marker :=
  all.find? fun marker => marker.text.isPrefixOf text

/-- The search in the list of all markers finds what is read letter by letter. -/
theorem startOf?_eq_leading? (text : Text) : startOf? text = leading? text := by
  cases found : startOf? text with
  | none =>
      cases read : leading? text with
      | none => rfl
      | some marker =>
          rcases leading?_eq_some_iff.1 read with ⟨member, starts⟩
          have absent := List.find?_eq_none.1 found marker member
          simp [starts] at absent
  | some marker =>
      have starts := List.find?_some found
      rw [List.isPrefixOf_iff_prefix] at starts
      exact (leading?_eq_some_iff.2 ⟨List.mem_of_find?_eq_some found, starts⟩).symm

end Marker

/-- One half of a value: its low twelve bits with their sign, or what is left, in units of 4096. -/
def halfOf (value : Int) : Half → Int
  | .high => (value + 2048) / 4096
  | .low => (value + 2048) % 4096 - 2048

/-- The number that a marker halves: a value, or its distance from an address, as a signed word. -/
def valueOf (value : Word) (pc : Int) : Source → Int
  | .label | .value => value.toInt
  | .relative => (value.toInt - pc).bmod (2 ^ 32)

namespace Site

variable {site : Site}

/-- The text that takes the place of a marker, if there is one. -/
def rendered? (site : Site) : Marker → Option Text
  | .operand position => site.words[position]?
  | .part source half position => do
    let word ← site.words[position]?
    let value ← Numeral.word? word
    return Text.ofInt (halfOf (valueOf value site.pc source) half)
  | .label =>
    if site.words.length < 2 then none
    else site.words.getLast?.bind fun word => (site.scope.labelAtText? word).map Symbol.name

/-- The text that takes the place of a marker, which is the marker itself if it stands for none. -/
def rendering (site : Site) (marker : Marker) : Text :=
  (site.rendered? marker).getD marker.text

theorem field_split (source : Source) (half : Half) (value : Word) (pc : Int) :
    half.field (source.split value pc) = halfOf (valueOf value pc source) half := by
  cases source <;> cases half <;>
    simp only [Source.split, Split.relative, Half.field, halfOf, valueOf, Split.high_ofWord,
      Split.low_ofWord, Word.toInt_sub_ofInt]

theorem toOption_resolve (scope : Scope) (word : Text) :
    (scope.resolve word).toOption = (scope.labelAtText? word).map Symbol.name := by
  unfold Scope.resolve
  split
  · next empty =>
      rw [List.isEmpty_iff] at empty
      subst empty
      cases spelt : Numeral.word? word with
      | none => simp [Scope.labelAtText?, spelt, Except.toOption]
      | some address => simp [Scope.labelAtText?, spelt, Scope.labelAt?, Except.toOption]
  · cases scope.labelAtText? word with
    | none => rfl
    | some symbol => rfl

theorem toOption_fill_label : (site.fill .label).toOption = site.rendered? .label := by
  rcases Nat.lt_or_ge site.words.length 2 with short | long
  · rw [fill_label_of_length_lt short, rendered?, if_pos short]
    rfl
  · have nonempty : site.words ≠ [] := by
      intro empty
      simp [empty] at long
    have last := List.getLast?_eq_some_getLast nonempty
    rw [fill_label_of_getLast? long last, rendered?, if_neg (Nat.not_lt.2 long), last,
      Option.bind_some, ← toOption_resolve]
    cases site.scope.resolve (site.words.getLast nonempty) with
    | error cause => rfl
    | ok name => rfl

/-- What a marker is filled with, without the reason why it is not. -/
theorem toOption_fill (marker : Marker) : (site.fill marker).toOption = site.rendered? marker := by
  cases marker with
  | operand position =>
      cases found : site.words[position]? with
      | none => simp [fill, rendered?, found, Except.toOption]
      | some word => simp [fill, rendered?, found, Except.toOption]
  | part source half position =>
      cases found : site.words[position]? with
      | none => simp [fill, rendered?, found, Except.toOption]
      | some word =>
          cases spelt : Numeral.word? word with
          | none => simp [fill, rendered?, found, spelt, Except.toOption]
          | some value => simp [fill, rendered?, found, spelt, field_split, Except.toOption]
  | label => exact toOption_fill_label

/-- A marker that is not filled stands for itself. -/
theorem text_ofMarker_fill (marker : Marker) :
    (Filling.ofMarker marker (site.fill marker)).text = site.rendering marker := by
  rw [rendering, ← toOption_fill]
  cases site.fill marker with
  | error cause => rfl
  | ok text => rfl

end Site

/-- Reads a text from left to right and replaces the markers that stand in it, when a label marker
has been met before or not. -/
def scan (site : Site) (labelMet : Bool) : Text → Text
  | [] => []
  | c :: rest =>
    match Marker.startOf? (c :: rest) with
    | none => c :: scan site labelMet rest
    | some .label =>
      (if labelMet then Marker.label.text else site.rendering .label) ++
        scan site true (rest.drop (Marker.label.text.length - 1))
    | some marker =>
      site.rendering marker ++ scan site labelMet (rest.drop (marker.text.length - 1))
termination_by text => text.length
decreasing_by all_goals simp only [List.length_cons, List.length_drop]; omega

theorem scan_cons_of_startOf?_eq_none {site : Site} {labelMet : Bool} {c : Char} {rest : Text}
    (literal : Marker.startOf? (c :: rest) = none) :
    scan site labelMet (c :: rest) = c :: scan site labelMet rest := by
  rw [scan]
  simp only [literal]

theorem scan_cons_of_label {site : Site} {labelMet : Bool} {c : Char} {rest : Text}
    (starts : Marker.startOf? (c :: rest) = some .label) :
    scan site labelMet (c :: rest) =
      (if labelMet then Marker.label.text else site.rendering .label) ++
        scan site true (rest.drop (Marker.label.text.length - 1)) := by
  rw [scan]
  simp only [starts]

theorem scan_cons_of_ne_label {site : Site} {labelMet : Bool} {c : Char} {rest : Text}
    {marker : Marker} (starts : Marker.startOf? (c :: rest) = some marker)
    (notLabel : marker ≠ .label) :
    scan site labelMet (c :: rest) =
      site.rendering marker ++ scan site labelMet (rest.drop (marker.text.length - 1)) := by
  rw [scan]
  cases marker with
  | label => exact absurd rfl notLabel
  | operand position => simp only [starts]
  | part source half position => simp only [starts]

namespace Template

theorem ofTextFrom_eq_ofText_drop (skipped : Nat) (text : Text) :
    ofTextFrom skipped text = ofText (text.drop skipped) := by
  induction text generalizing skipped with
  | nil => simp [ofTextFrom, ofText]
  | cons c rest ih =>
      cases skipped with
      | zero => rfl
      | succ skipped => rw [ofTextFrom, ih, List.drop_succ_cons]

/-- A character that starts no marker is literal. -/
theorem ofText_cons_of_none {c : Char} {rest : Text}
    (literal : Marker.leading? (c :: rest) = none) :
    ofText (c :: rest) = prepend c (ofText rest) := by
  simp only [ofText, ofTextFrom, literal]

/-- A marker is read as a whole. -/
theorem ofText_cons_of_some {c : Char} {rest : Text} {marker : Marker}
    (starts : Marker.leading? (c :: rest) = some marker) :
    ofText (c :: rest) = .marker marker :: ofText (rest.drop (marker.text.length - 1)) := by
  rw [← ofTextFrom_eq_ofText_drop]
  simp only [ofText, ofTextFrom, starts]

theorem ofText_text_append {marker : Marker} (member : marker ∈ Marker.all) (rest : Text) :
    ofText (marker.text ++ rest) = .marker marker :: ofText rest := by
  have starts := Marker.leading?_eq_some_iff.2 ⟨member, List.prefix_append marker.text rest⟩
  rcases List.exists_cons_of_ne_nil marker.text_ne_nil with ⟨c, later, spelt⟩
  rw [spelt, List.cons_append] at starts ⊢
  rw [ofText_cons_of_some starts, spelt, List.length_cons, Nat.add_sub_cancel, List.drop_left]

/-- A text is read by taking one literal character or one marker after the other. -/
theorem ofText_induction {motive : Text → Prop} (nil : motive [])
    (literal : ∀ c rest, Marker.leading? (c :: rest) = none → motive rest → motive (c :: rest))
    (marker : ∀ (marker : Marker) (rest : Text), marker ∈ Marker.all → motive rest →
      motive (marker.text ++ rest)) (text : Text) : motive text := by
  -- A marker takes several characters at once, so the length of what is left is what decreases.
  induction length : text.length using Nat.strongRecOn generalizing text with
  | ind size ih =>
      cases text with
      | nil => exact nil
      | cons c rest =>
          cases starts : Marker.leading? (c :: rest) with
          | none =>
              refine literal c rest starts (ih rest.length ?_ rest rfl)
              rw [← length, List.length_cons]
              omega
          | some first =>
              rcases Marker.leading?_eq_some_iff.1 starts with ⟨member, later, parts⟩
              rw [← parts] at length ⊢
              refine marker first later member (ih later.length ?_ later rfl)
              have nonempty := List.length_pos_iff.2 first.text_ne_nil
              rw [← length, List.length_append]
              omega

theorem text_fillingsAfter_prepend (site : Site) (labelMet : Bool) (c : Char)
    (template : Template) :
    (fillingsAfter site labelMet (prepend c template)).flatMap Filling.text =
      c :: (fillingsAfter site labelMet template).flatMap Filling.text := by
  unfold prepend
  split
  · rfl
  · rfl

theorem text_fillingsAfter_cons_of_ne_label (site : Site) (labelMet : Bool) {marker : Marker}
    (template : Template) (notLabel : marker ≠ .label) :
    (fillingsAfter site labelMet (.marker marker :: template)).flatMap Filling.text =
      site.rendering marker ++
        (fillingsAfter site labelMet template).flatMap Filling.text := by
  cases marker with
  | label => exact absurd rfl notLabel
  | operand position =>
      rw [fillingsAfter, List.flatMap_cons, Site.text_ofMarker_fill]
      exact notLabel
  | part source half position =>
      rw [fillingsAfter, List.flatMap_cons, Site.text_ofMarker_fill]
      exact notLabel

theorem text_fillingsAfter_cons_label (site : Site) (labelMet : Bool) (template : Template) :
    (fillingsAfter site labelMet (.marker .label :: template)).flatMap Filling.text =
      (if labelMet then Marker.label.text else site.rendering .label) ++
        (fillingsAfter site true template).flatMap Filling.text := by
  rw [fillingsAfter, List.flatMap_cons]
  cases labelMet with
  | true => rfl
  | false =>
      rw [if_neg Bool.false_ne_true, if_neg Bool.false_ne_true, Site.text_ofMarker_fill]

/-- To read a line and to fill the template is to go through the line once. -/
theorem text_fillingsAfter_ofText (site : Site) (labelMet : Bool) (text : Text) :
    (fillingsAfter site labelMet (ofText text)).flatMap Filling.text = scan site labelMet text := by
  -- Pieces end where the scan stops to look for a marker, so the induction is on the scan.
  induction labelMet, text using scan.induct with
  | case1 labelMet => simp [ofText, ofTextFrom, fillingsAfter, scan]
  | case2 labelMet c rest absent ih =>
      have literal : Marker.leading? (c :: rest) = none :=
        (Marker.startOf?_eq_leading? _).symm.trans absent
      rw [scan_cons_of_startOf?_eq_none absent, ofText_cons_of_none literal,
        text_fillingsAfter_prepend, ih]
  | case3 labelMet c rest starts ih =>
      have leading : Marker.leading? (c :: rest) = some .label :=
        (Marker.startOf?_eq_leading? _).symm.trans starts
      rw [scan_cons_of_label starts, ofText_cons_of_some leading, text_fillingsAfter_cons_label, ih]
  | case4 labelMet c rest marker notLabel starts ih =>
      have leading : Marker.leading? (c :: rest) = some marker :=
        (Marker.startOf?_eq_leading? _).symm.trans starts
      rw [scan_cons_of_ne_label starts notLabel, ofText_cons_of_some leading,
        text_fillingsAfter_cons_of_ne_label _ _ _ notLabel, ih]

/-- What becomes of a piece, without regard to the other pieces of its template. -/
def Independent (site : Site) : Segment → Filling → Prop
  | .literal text, filling => filling.text = text
  | .marker .label, filling =>
    filling.text = site.rendering .label ∨ filling.text = Marker.label.text
  | .marker marker, filling => filling.text = site.rendering marker

/-- Each piece is filled on its own, whatever has been met before. -/
theorem forall₂_independent_fillingsAfter (site : Site) (labelMet : Bool) (template : Template) :
    List.Forall₂ (Independent site) template (fillingsAfter site labelMet template) := by
  induction template generalizing labelMet with
  | nil => exact .nil
  | cons segment template ih =>
      cases segment with
      | literal text => exact .cons rfl (ih labelMet)
      | marker marker =>
          cases marker with
          | label =>
              refine .cons ?_ (ih true)
              cases labelMet with
              | true => exact .inr rfl
              | false => exact .inl (site.text_ofMarker_fill .label)
          | operand position => exact .cons (site.text_ofMarker_fill _) (ih labelMet)
          | part source half position => exact .cons (site.text_ofMarker_fill _) (ih labelMet)

/-- Filling a template is one pass over its text, and each marker is filled on its own. -/
theorem fill_eq_scan (site : Site) (text : Text) :
    fill site (ofText text) = scan site false text ∧
      List.Forall₂ (Independent site) (ofText text) (fillings site (ofText text)) :=
  ⟨text_fillingsAfter_ofText site false text, forall₂_independent_fillingsAfter site false _⟩

/-- An operand that looks like a marker is put in as it is. -/
example :
    fill ⟨["mv".toList, "RG2".toList, "RG1".toList], 0, []⟩ (ofText "RG12PCLAB, RG2".toList) =
      "RG22PCLAB, RG1".toList := by
  decide

end Template

end PseudoAsm
