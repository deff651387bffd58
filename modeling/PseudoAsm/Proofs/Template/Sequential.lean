import PseudoAsm.Proofs.Template.Overlap

/-!
# Filling a template marker by marker

A template may also be filled by one replacement in its text after the other: for each position all
markers of this position in turn, and at last the first label marker. Each replacement goes through
all of the text, what was put in before included.

This agrees with one pass over the template if nothing that is put in can take part in a marker. The
operands have no letter that markers start with. And no literal text of the template ends like a
marker that has only begun, so the text after it, whatever is put there, cannot complete one. What
is left between two replacements is then again a template: literal text where no marker starts, and
the markers that are still to be replaced.
-/

namespace PseudoAsm

namespace Site

variable (site : Site)

/-- What is put in for the markers of a position, in the order in which they are replaced. -/
def replacementsAt (position : Nat) : List (Marker × Text) :=
  match site.words[position]? with
  | none => []
  | some operand =>
    (.operand position, operand) ::
      match Numeral.word? operand with
      | none => []
      | some value =>
        [Source.label, .relative, .value].flatMap fun source =>
          [Half.high, .low].map fun half =>
            (.part source half position, Text.ofInt (half.field (source.split value site.pc)))

/-- What is put in for the markers of all operands, position by position. -/
def replacements : List (Marker × Text) :=
  (List.range' 1 (min 9 (site.words.length - 1))).flatMap site.replacementsAt

/-- The label at the address that the last operand spells. -/
def lastLabel? : Option Text :=
  site.words.tail.getLast?.bind fun operand =>
    (site.scope.labelAtText? operand).map Symbol.name

end Site

/-- The text with a label, if there is one, in the place of its first label marker. -/
def putLabel : Option Text → Text → Text
  | none, text => text
  | some label, text => Text.replaceFirst Marker.label.text label text

/-- Fills a text by one replacement after the other, the first label marker last. -/
def fillSequentially (site : Site) (text : Text) : Text :=
  putLabel site.lastLabel? (site.replacements.foldl
    (fun text replacement => Text.replaceAll replacement.1.text replacement.2 text) text)

namespace Marker

/-- Whether a text ends like a marker that has begun in it and goes on behind it. -/
def EndsUnfinished (text : Text) : Prop :=
  ∃ marker ∈ all, ∃ start, start ≠ [] ∧ start ≠ marker.text ∧ start <+: marker.text ∧
    start <:+ text

instance (text : Text) : Decidable (EndsUnfinished text) :=
  decidable_of_iff
    (∃ marker ∈ all, ∃ start ∈ text.tails, start ≠ [] ∧ start ≠ marker.text ∧ start <+: marker.text)
    (by
      refine exists_congr fun marker => and_congr_right fun _ => exists_congr fun start => ?_
      rw [List.mem_tails]
      tauto)

variable {marker other : Marker} {text : Text}

theorem avoids_of_forall_not_mem_initials (literal : ∀ c ∈ text, c ∉ initials)
    (member : other ∈ all) : text.Avoids other.text := by
  intro start inText nonempty rest
  cases start with
  | nil => exact absurd rfl nonempty
  | cons c start => exact not_isPrefix_cons (literal c (inText.mem List.mem_cons_self)) member _

theorem not_mem_initials_of_mem_ofInt {value : Int} :
    ∀ c ∈ Text.ofInt value, c ∉ initials := by
  have digits : ∀ c : Char, c.isDigit = true → c ∉ initials := by
    intro c digit initial
    have noDigits : ∀ c ∈ initials, c.isDigit = false := by decide
    exact Bool.false_ne_true ((noDigits c initial).symm.trans digit)
  cases value with
  | ofNat number => exact fun c member => digits c (Text.isDigit_of_mem_ofNat member)
  | negSucc number =>
      intro c member
      rcases List.mem_cons.1 member with rfl | inDigits
      · decide
      · exact digits c (Text.isDigit_of_mem_ofNat inDigits)

end Marker

namespace Template

variable {site : Site} {template : Template} {marker : Marker} {text inserted : Text}

/-- Literal text where no marker starts, or a marker. -/
def IsClean : Segment → Prop
  | .literal text => ∀ marker ∈ Marker.all, text.Avoids marker.text
  | .marker marker => marker ∈ Marker.all

/-- The literal pieces of a template. -/
def literals (template : Template) : List Text :=
  template.filterMap fun segment =>
    match segment with
    | .literal text => some text
    | .marker _ => none

theorem mem_literals (member : .literal text ∈ template) : text ∈ template.literals :=
  List.mem_filterMap.2 ⟨_, member, rfl⟩

/-- The template with a text in the place of a marker. -/
def put (marker : Marker) (inserted : Text) (template : Template) : Template :=
  template.map fun segment => if segment = .marker marker then .literal inserted else segment

/-- Where no marker arises by accident, replacing text is replacing markers. -/
theorem replaceAll_segment_append {segment : Segment} (clean : IsClean segment)
    (member : marker ∈ Marker.all) (rest : Text) :
    Text.replaceAll marker.text inserted (segment.text ++ rest) =
      (if segment = .marker marker then .literal inserted else segment).text ++
        Text.replaceAll marker.text inserted rest := by
  split
  · next isMarker =>
      subst isMarker
      exact Text.replaceAll_self_append marker.text_ne_nil
  · next different =>
      cases segment with
      | literal text => exact Text.replaceAll_append_of_avoids (clean marker member)
      | marker other =>
          exact Text.replaceAll_append_of_avoids
            (Marker.avoids_text clean member fun same => different (congrArg _ same))

/-- In a clean template a replacement finds the marker and nothing else. -/
theorem replaceAll_toText (clean : ∀ segment ∈ template, IsClean segment)
    (member : marker ∈ Marker.all) :
    Text.replaceAll marker.text inserted template.toText =
      (put marker inserted template).toText := by
  induction template with
  | nil => simp [toText, put, Text.replaceAll]
  | cons segment template ih =>
      rw [List.forall_mem_cons] at clean
      rw [toText, List.flatMap_cons, ← toText, replaceAll_segment_append clean.1 member,
        ih clean.2]
      rfl

/-- Text without the first letters of markers makes no new marker. -/
theorem isClean_put (clean : ∀ segment ∈ template, IsClean segment)
    (literal : ∀ c ∈ inserted, c ∉ Marker.initials) :
    ∀ segment ∈ put marker inserted template, IsClean segment := by
  simp only [put, List.forall_mem_map]
  intro segment inTemplate
  split
  · exact fun other member => Marker.avoids_of_forall_not_mem_initials literal member
  · exact clean segment inTemplate

theorem marker_mem_of_mem_put {other : Marker}
    (member : .marker other ∈ put marker inserted template) :
    .marker other ∈ template ∧ other ≠ marker := by
  rcases List.mem_map.1 member with ⟨segment, inTemplate, replaced⟩
  split at replaced
  · cases replaced
  · next different =>
      subst replaced
      exact ⟨inTemplate, fun same => different (congrArg _ same)⟩

theorem put_cons (segment : Segment) (template : Template) :
    put marker inserted (segment :: template) =
      (if segment = .marker marker then .literal inserted else segment) ::
        put marker inserted template :=
  rfl

/-- A marker that is put in beforehand is as good as one that is filled in its turn. -/
theorem text_fillingsAfter_put (notLabel : marker ≠ .label)
    (rendered : site.rendering marker = inserted) (labelMet : Bool) :
    (fillingsAfter site labelMet (put marker inserted template)).flatMap Filling.text =
      (fillingsAfter site labelMet template).flatMap Filling.text := by
  induction template generalizing labelMet with
  | nil => rfl
  | cons segment template ih =>
      rw [put_cons]
      split
      · next isMarker =>
          rw [isMarker, text_fillingsAfter_cons_of_ne_label _ _ _ notLabel, rendered, ← ih]
          rfl
      · rcases segment with text | other
        · simp only [fillingsAfter, List.flatMap_cons, ih]
        · by_cases isLabel : other = .label
          · rw [isLabel, text_fillingsAfter_cons_label, text_fillingsAfter_cons_label, ih]
          · rw [text_fillingsAfter_cons_of_ne_label _ _ _ isLabel,
              text_fillingsAfter_cons_of_ne_label _ _ _ isLabel, ih]

theorem text_fillingsAfter_true_of_kept
    (kept : ∀ marker, .marker marker ∈ template → marker ≠ .label →
      site.rendering marker = marker.text) :
    (fillingsAfter site true template).flatMap Filling.text = template.toText := by
  induction template with
  | nil => rfl
  | cons segment template ih =>
      have later := ih fun marker member => kept marker (List.mem_cons_of_mem _ member)
      rcases segment with text | marker
      · rw [fillingsAfter, List.flatMap_cons, later]
        rfl
      · by_cases isLabel : marker = .label
        · rw [isLabel, text_fillingsAfter_cons_label, if_pos rfl, later]
          rfl
        · rw [text_fillingsAfter_cons_of_ne_label _ _ _ isLabel, later,
            kept marker List.mem_cons_self isLabel]
          rfl

theorem putLabel_append_of_avoids (label? : Option Text) {rest : Text}
    (avoids : text.Avoids Marker.label.text) :
    putLabel label? (text ++ rest) = text ++ putLabel label? rest := by
  cases label? with
  | none => rfl
  | some label => exact Text.replaceFirst_append_of_avoids avoids

theorem putLabel_label_append (label? : Option Text) (rest : Text) :
    putLabel label? (Marker.label.text ++ rest) = label?.getD Marker.label.text ++ rest := by
  cases label? with
  | none => rfl
  | some label => exact Text.replaceFirst_self_append Marker.label.text_ne_nil

/-- Where all other markers stay, filling a template replaces its first label marker. -/
theorem fill_of_kept (clean : ∀ segment ∈ template, IsClean segment)
    (kept : ∀ marker, .marker marker ∈ template → marker ≠ .label →
      site.rendering marker = marker.text) :
    template.fill site = putLabel (site.rendered? .label) template.toText := by
  induction template with
  | nil => cases site.rendered? .label <;> rfl
  | cons segment template ih =>
      rw [List.forall_mem_cons] at clean
      have keptLater := fun marker member => kept marker (List.mem_cons_of_mem _ member)
      have later := ih clean.2 keptLater
      rw [toText, List.flatMap_cons, ← toText]
      rcases segment with text | marker
      · rw [fill_cons_literal, later, Segment.text,
          putLabel_append_of_avoids _ (clean.1 .label (Marker.mem_all_iff.2 (.inl rfl)))]
      · rw [Segment.text, fill, fillings]
        by_cases isLabel : marker = .label
        · -- This is the first label marker, so from here on all markers stay.
          rw [isLabel, text_fillingsAfter_cons_label, putLabel_label_append,
            text_fillingsAfter_true_of_kept keptLater]
          rfl
        · rw [text_fillingsAfter_cons_of_ne_label _ _ _ isLabel,
            kept marker List.mem_cons_self isLabel,
            putLabel_append_of_avoids _
              (Marker.avoids_text clean.1 (Marker.mem_all_iff.2 (.inl rfl)) isLabel), ← later]
          rfl

end Template

namespace Site

variable {site : Site}

theorem rendered?_label : site.rendered? .label = site.lastLabel? := by
  rcases site with ⟨_ | ⟨mnemonic, _ | ⟨operand, operands⟩⟩, pc, scope⟩
  · rfl
  · rfl
  · simp [rendered?, lastLabel?, List.getLast?_cons_cons]

variable {position : Nat} {marker : Marker} {inserted : Text}

theorem position?_of_mem_replacementsAt
    (member : (marker, inserted) ∈ site.replacementsAt position) :
    marker.position? = some position := by
  unfold replacementsAt at member
  split at member
  · cases member
  · rcases List.mem_cons.1 member with isOperand | isPart
    · cases isOperand
      rfl
    · split at isPart
      · cases isPart
      · simp only [List.mem_flatMap, List.mem_map] at isPart
        rcases isPart with ⟨source, _, half, _, same⟩
        cases same
        rfl

theorem exists_word_of_rendered? (numbered : marker.position? = some position)
    (rendered : site.rendered? marker = some inserted) :
    ∃ word, site.words[position]? = some word ∧
      (inserted = word ∨ ∃ value, inserted = Text.ofInt value) := by
  cases marker with
  | label => cases numbered
  | operand other =>
      cases numbered
      exact ⟨inserted, rendered, .inl rfl⟩
  | part source half other =>
      cases numbered
      simp only [rendered?, Option.bind_eq_bind, Option.bind_eq_some_iff] at rendered
      rcases rendered with ⟨word, found, value, _, same⟩
      cases same
      exact ⟨word, found, .inr ⟨_, rfl⟩⟩

theorem mem_replacementsAt_iff :
    (marker, inserted) ∈ site.replacementsAt position ↔
      marker.position? = some position ∧ site.rendered? marker = some inserted := by
  by_cases numbered : marker.position? = some position
  · cases marker with
    | label => cases numbered
    | operand other =>
        cases numbered
        cases found : site.words[position]? with
        | none => simp [replacementsAt, rendered?, found, Marker.position?]
        | some operand =>
            cases spelt : Numeral.word? operand <;>
              simp [replacementsAt, rendered?, found, spelt, Marker.position?, eq_comm]
    | part source half other =>
        cases numbered
        cases found : site.words[position]? with
        | none => simp [replacementsAt, rendered?, found]
        | some operand =>
            cases spelt : Numeral.word? operand with
            | none => simp [replacementsAt, rendered?, found, spelt]
            | some value =>
                cases source <;> cases half <;>
                  simp [replacementsAt, rendered?, found, spelt, field_split, Marker.position?,
                    eq_comm]
  · simp only [numbered, false_and, iff_false]
    exact fun member => numbered (position?_of_mem_replacementsAt member)

/-- All markers are replaced that stand for something. -/
theorem mem_replacements_iff :
    (marker, inserted) ∈ site.replacements ↔
      marker ∈ Marker.all ∧ marker ≠ .label ∧ site.rendered? marker = some inserted := by
  simp only [replacements, List.mem_flatMap, List.mem_range'_1, mem_replacementsAt_iff]
  constructor
  · rintro ⟨position, bounds, numbered, rendered⟩
    have member : position ∈ Marker.positions := Marker.mem_positions_iff.2 (by omega)
    refine ⟨Marker.mem_all_iff.2 (.inr ⟨position, member, numbered⟩), ?_, rendered⟩
    rintro rfl
    cases numbered
  · rintro ⟨member, notLabel, rendered⟩
    rcases Marker.mem_all_iff.1 member with isLabel | ⟨position, member, numbered⟩
    · exact absurd isLabel notLabel
    · have bounds := Marker.mem_positions_iff.1 member
      rcases exists_word_of_rendered? numbered rendered with ⟨word, found, _⟩
      have small := (List.getElem?_eq_some_iff.1 found).1
      exact ⟨position, by omega, numbered, rendered⟩

/-- Operands without the first letters of markers put in none of them. -/
theorem not_mem_initials_of_mem_replacements
    (operands : ∀ operand ∈ site.words.tail, ∀ c ∈ operand, c ∉ Marker.initials)
    (member : (marker, inserted) ∈ site.replacements) : ∀ c ∈ inserted, c ∉ Marker.initials := by
  simp only [replacements, List.mem_flatMap, List.mem_range'_1, mem_replacementsAt_iff] at member
  rcases member with ⟨position, bounds, numbered, rendered⟩
  rcases exists_word_of_rendered? numbered rendered with ⟨word, found, rfl | ⟨value, rfl⟩⟩
  · have isOperand : inserted ∈ site.words.tail := by
      rw [List.mem_iff_getElem?]
      exact ⟨position - 1, by rwa [List.getElem?_tail, Nat.sub_add_cancel bounds.1]⟩
    exact operands inserted isOperand
  · exact Marker.not_mem_initials_of_mem_ofInt

end Site

namespace Template

variable {site : Site} {template : Template} {replacement : Marker × Text}

/-- What is known of a text that is put in for a marker. -/
structure IsReplacement (site : Site) (replacement : Marker × Text) : Prop where
  member : replacement.1 ∈ Marker.all
  notLabel : replacement.1 ≠ .label
  rendered : site.rendering replacement.1 = replacement.2
  literal : ∀ c ∈ replacement.2, c ∉ Marker.initials

/-- A template is what is left of another one after some replacements. -/
structure IsLeft (site : Site) (template : Template) (done : List (Marker × Text))
    (left : Template) : Prop where
  clean : ∀ segment ∈ left, IsClean segment
  sameFilling : left.fill site = template.fill site
  replaced : ∀ replacement ∈ done, Segment.marker replacement.1 ∉ left

/-- One replacement more leaves a template that is filled to the same line. -/
theorem IsLeft.put {done : List (Marker × Text)} {left : Template}
    (isLeft : IsLeft site template done left) (valid : IsReplacement site replacement) :
    IsLeft site template (done ++ [replacement]) (left.put replacement.1 replacement.2) where
  clean := isClean_put isLeft.clean valid.literal
  sameFilling := (text_fillingsAfter_put valid.notLabel valid.rendered false).trans
    isLeft.sameFilling
  replaced := by
    intro earlier inDone remains
    have atLeft := marker_mem_of_mem_put remains
    rcases List.mem_append.1 inDone with before | now
    · exact isLeft.replaced earlier before atLeft.1
    · exact atLeft.2 (congrArg Prod.fst (List.mem_singleton.1 now))

/-- After all replacements the text is the text of what is left of the template. -/
theorem IsLeft.exists_foldl {done : List (Marker × Text)} {left : Template}
    (isLeft : IsLeft site template done left) (replacements : List (Marker × Text))
    (valid : ∀ replacement ∈ replacements, IsReplacement site replacement) :
    ∃ last, IsLeft site template (done ++ replacements) last ∧
      replacements.foldl
        (fun text replacement => Text.replaceAll replacement.1.text replacement.2 text)
        left.toText = last.toText := by
  induction replacements generalizing done left with
  | nil => exact ⟨left, by rwa [List.append_nil], rfl⟩
  | cons replacement replacements ih =>
      rw [List.forall_mem_cons] at valid
      rcases ih (isLeft.put valid.1) valid.2 with ⟨last, lastLeft, text⟩
      rw [List.append_assoc, List.singleton_append] at lastLeft
      refine ⟨last, lastLeft, ?_⟩
      rw [List.foldl_cons, replaceAll_toText isLeft.clean valid.1.member, text]

theorem mem_prepend {c : Char} {segment : Segment} (member : segment ∈ prepend c template) :
    segment ∈ template ∨ ∃ literal, segment = .literal (c :: literal) ∧
      literal <+: template.toText ∧ (literal = [] ∨ .literal literal ∈ template) := by
  unfold prepend at member
  split at member
  · next literal later =>
      rcases List.mem_cons.1 member with isFirst | inLater
      · exact .inr ⟨literal, isFirst, List.prefix_append _ _, .inr List.mem_cons_self⟩
      · exact .inl (List.mem_cons_of_mem _ inLater)
  · rcases List.mem_cons.1 member with isFirst | inTemplate
    · exact .inr ⟨[], isFirst, List.nil_prefix, .inl rfl⟩
    · exact .inl inTemplate

/-- The reader leaves no marker in literal text. -/
def HoldsNoMarker : Segment → Prop
  | .literal text => ∀ marker ∈ Marker.all, ¬ marker.text <:+: text
  | .marker marker => marker ∈ Marker.all

theorem holdsNoMarker_of_mem_prepend {c : Char} {rest : Text}
    (absent : Marker.leading? (c :: rest) = none)
    (later : ∀ segment ∈ ofText rest, HoldsNoMarker segment) :
    ∀ segment ∈ prepend c (ofText rest), HoldsNoMarker segment := by
  intro segment inPrepended
  rcases mem_prepend inPrepended with inRest | ⟨literal, rfl, front, empty | inRest⟩
  · exact later segment inRest
  all_goals
    intro marker member occurs
    rw [toText_ofText] at front
    rcases List.infix_cons_iff.1 occurs with atStart | inside
    · have starts := atStart.trans ((List.prefix_cons_inj c).2 front)
      rw [Marker.leading?_eq_some_iff.2 ⟨member, starts⟩] at absent
      cases absent
  · rw [empty, List.infix_nil] at inside
    exact marker.text_ne_nil inside
  · exact later _ inRest marker member inside

theorem holdsNoMarker_of_mem_ofText (text : Text) :
    ∀ segment ∈ ofText text, HoldsNoMarker segment := by
  induction text using ofText_induction with
  | nil => exact fun _ none => absurd none List.not_mem_nil
  | literal c rest absent ih =>
      rw [ofText_cons_of_none absent]
      exact holdsNoMarker_of_mem_prepend absent ih
  | marker marker rest member ih =>
      rw [ofText_text_append member, List.forall_mem_cons]
      exact ⟨member, ih⟩

/-- The pieces of a template are clean unless literal text ends in an unfinished marker. -/
theorem isClean_ofText {text : Text}
    (finished : ∀ literal ∈ (ofText text).literals, ¬ Marker.EndsUnfinished literal) :
    ∀ segment ∈ ofText text, IsClean segment := by
  intro segment inTemplate
  have unmarked := holdsNoMarker_of_mem_ofText text segment inTemplate
  cases segment with
  | marker marker => exact unmarked
  | literal literal =>
      intro marker member start atEnd nonempty rest
      have unstarted : ¬ marker.text <+: start := fun starts =>
        unmarked marker member (starts.isInfix.trans atEnd.isInfix)
      refine Text.not_isPrefix_append unstarted (fun begun => ?_) rest
      have part : start ≠ marker.text := by
        rintro rfl
        exact unstarted List.prefix_rfl
      exact finished literal (mem_literals inTemplate)
        ⟨marker, member, start, nonempty, part, begun, atEnd⟩

/-- One pass over a template is the same as one replacement after the other, if the operands have no
letter that markers start with and no literal text ends like a marker that has begun. -/
theorem fill_eq_fillSequentially (site : Site) (text : Text)
    (operands : ∀ operand ∈ site.words.tail, ∀ c ∈ operand, c ∉ Marker.initials)
    (finished : ∀ literal ∈ (ofText text).literals, ¬ Marker.EndsUnfinished literal) :
    (ofText text).fill site = fillSequentially site text := by
  have valid : ∀ replacement ∈ site.replacements, IsReplacement site replacement := by
    rintro ⟨marker, inserted⟩ member
    rcases Site.mem_replacements_iff.1 member with ⟨known, notLabel, rendered⟩
    exact ⟨known, notLabel, by rw [Site.rendering, rendered, Option.getD_some],
      Site.not_mem_initials_of_mem_replacements operands member⟩
  have start : IsLeft site (ofText text) [] (ofText text) :=
    ⟨isClean_ofText finished, rfl, fun _ none => absurd none List.not_mem_nil⟩
  rcases start.exists_foldl site.replacements valid with ⟨last, isLeft, replaced⟩
  have kept : ∀ marker, .marker marker ∈ last → marker ≠ .label →
      site.rendering marker = marker.text := by
    intro marker remains notLabel
    cases rendered : site.rendered? marker with
    | none => rw [Site.rendering, rendered, Option.getD_none]
    | some inserted =>
        have known : marker ∈ Marker.all := isLeft.clean _ remains
        have replacement := Site.mem_replacements_iff.2 ⟨known, notLabel, rendered⟩
        exact absurd remains (isLeft.replaced _ replacement)
  rw [← isLeft.sameFilling, fill_of_kept isLeft.clean kept, ← replaced, toText_ofText,
    Site.rendered?_label, fillSequentially]

/-- A label that is spelt like markers. -/
def lookalikeSite : Site :=
  ⟨["la".toList, "x5".toList, "0x12345FFF".toList], 0x100,
    [⟨SymbolTable.globalName, [⟨"RG1LAB".toList, 0x12345FFF⟩], by decide⟩]⟩

/-- An operand goes on in the digit behind its marker, one marker has no operand, and the label
looks like two markers. -/
theorem fill_eq_fillSequentially_lookalike :
    (∀ operand ∈ lookalikeSite.words.tail, ∀ c ∈ operand, c ∉ Marker.initials) ∧
      (∀ literal ∈ (ofText "RG12, VL2 LAB+LAB LL3 PCH2".toList).literals,
        ¬ Marker.EndsUnfinished literal) ∧
      fillSequentially lookalikeSite "RG12, VL2 LAB+LAB LL3 PCH2".toList =
        "x52, -1 RG1LAB+LAB LL3 74566".toList := by
  have operands : ∀ operand ∈ lookalikeSite.words.tail, ∀ c ∈ operand, c ∉ Marker.initials := by
    decide
  have finished : ∀ literal ∈ (ofText "RG12, VL2 LAB+LAB LL3 PCH2".toList).literals,
      ¬ Marker.EndsUnfinished literal := by
    decide +kernel
  have filled : (ofText "RG12, VL2 LAB+LAB LL3 PCH2".toList).fill lookalikeSite =
      "x52, -1 RG1LAB+LAB LL3 74566".toList := by
    decide +kernel
  exact ⟨operands, finished, (fill_eq_fillSequentially _ _ operands finished).symm.trans filled⟩

end Template

end PseudoAsm
