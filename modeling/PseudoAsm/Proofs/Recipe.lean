import PseudoAsm.Proofs.Expansion

/-!
# Recipes given as texts

A recipe that is given as a text has a template for each of its lines that is not empty. A text
without such a line is no recipe at all, so a recipe that is there is never one of no lines. Hence
what is known of a form before its operands are tells what becomes of them: the form can be expanded
in a variant exactly if it has a size there, and the expansion has this size.
-/

namespace PseudoAsm

/-- A text and its pieces between line feeds. -/
inductive InPieces : Text → List Text → Prop
  | last {piece : Text} (unbroken : '\n' ∉ piece) : InPieces piece [piece]
  | next {piece rest : Text} {pieces : List Text} (unbroken : '\n' ∉ piece)
      (later : InPieces rest pieces) : InPieces (piece ++ '\n' :: rest) (piece :: pieces)

/-- What is known of a form in a variant agrees with the text that its recipe was given as: whether
it has a size, whether it can be expanded, and what it is expanded to. -/
structure Form.AgreesWith (form : Form) (variant : Variant) (recipe : Option Text) : Prop where
  defined : (form.recipe? variant).isSome ↔ 0 < form.length variant
  available : ∀ site, (∃ expansion, form.expand variant site = .ok expansion) ↔
    0 < form.length variant
  sized : 0 < form.length variant ↔ ∃ text, recipe = some text ∧ ∃ c ∈ text, c ≠ '\n'
  expanded : ∀ site expansion, form.expand variant site = .ok expansion →
    ∃ text pieces, recipe = some text ∧ InPieces text pieces ∧
      expansion.statements =
        (pieces.filter (· ≠ [])).map (fun piece => (Template.ofText piece).fill site) ∧
      expansion.length = form.length variant
  refused : ∀ site error, form.expand variant site = .error error ↔
    form.length variant = 0 ∧ error = .noRecipe form.mnemonic variant

namespace InPieces

variable {text : Text} {pieces : List Text}

theorem exists_pieces (text : Text) : ∃ pieces, InPieces text pieces := by
  -- A line feed starts a new piece; any other character goes in front of the first one.
  induction text with
  | nil => exact ⟨_, .last List.not_mem_nil⟩
  | cons c text ih =>
      rcases ih with ⟨pieces, inPieces⟩
      by_cases lineFeed : c = '\n'
      · subst lineFeed
        exact ⟨_, .next List.not_mem_nil inPieces⟩
      · cases inPieces with
        | last unbroken => exact ⟨_, .last (by simp [unbroken, Ne.symm lineFeed])⟩
        | @next piece rest pieces unbroken later =>
            have longer : '\n' ∉ c :: piece := by simp [unbroken, Ne.symm lineFeed]
            exact ⟨_, .next longer later⟩

/-- A text has its pieces in one way only. -/
theorem splitOn_eq (inPieces : InPieces text pieces) : text.splitOn '\n' = pieces := by
  induction inPieces with
  | last unbroken => exact List.splitOn_eq_singleton unbroken
  | next unbroken _ ih => rw [List.splitOn_append_cons_self_of_not_mem unbroken, ih]

/-- All pieces are empty exactly if there is nothing but line feeds. -/
theorem forall_eq_nil_iff (inPieces : InPieces text pieces) :
    (∀ piece ∈ pieces, piece = []) ↔ ∀ c ∈ text, c = '\n' := by
  have solid : ∀ {piece : Text}, '\n' ∉ piece → (piece = [] ↔ ∀ c ∈ piece, c = '\n') := by
    intro piece unbroken
    cases piece with
    | nil => simp
    | cons c piece => simp_all [eq_comm]
  induction inPieces with
  | last unbroken => simpa using solid unbroken
  | next unbroken _ ih => simp [solid unbroken, ih, or_imp, forall_and]

end InPieces

theorem Recipe.ofText?_of_inPieces {text : Text} {pieces : List Text}
    (inPieces : InPieces text pieces) :
    ofText? text = ofLines? (pieces.filter (· ≠ [])) := by
  have sameTest : (fun piece : Text => !piece.isEmpty) = fun piece => decide (piece ≠ []) := by
    funext piece
    cases piece <;> rfl
  rw [ofText?, inPieces.splitOn_eq, sameTest]

namespace Form

variable {form : Form} {variant : Variant} {recipe : Option Text}

/-- There is no recipe if no text or nothing but line feeds is given, and else one with lines. -/
theorem recipe?_cases (given : form.recipe? variant = recipe.bind Recipe.ofText?) :
    (form.recipe? variant = none ∧ ∀ text, recipe = some text → ∀ c ∈ text, c = '\n') ∨
    ∃ text pieces, recipe = some text ∧ InPieces text pieces ∧ (∃ c ∈ text, c ≠ '\n') ∧
      form.recipe? variant = some (pieces.filter (· ≠ [])) ∧ pieces.filter (· ≠ []) ≠ [] := by
  cases recipe with
  | none => exact .inl ⟨given, by simp⟩
  | some text =>
      rcases InPieces.exists_pieces text with ⟨pieces, inPieces⟩
      rw [Option.bind_some, Recipe.ofText?_of_inPieces inPieces, Recipe.ofLines?] at given
      simp only [List.isEmpty_iff] at given
      have noLines : pieces.filter (· ≠ []) = [] ↔ ∀ c ∈ text, c = '\n' := by
        simp [← inPieces.forall_eq_nil_iff]
      by_cases empty : pieces.filter (· ≠ []) = []
      · rw [if_pos empty] at given
        refine .inl ⟨given, fun _ same => ?_⟩
        cases same
        exact noLines.1 empty
      · rw [if_neg empty] at given
        refine .inr ⟨text, pieces, rfl, inPieces, ?_, given, empty⟩
        simpa using noLines.not.1 empty

/-- All that is asked of sizes and expansions follows from where the recipe comes from. -/
theorem agreesWith_of_recipe? (given : form.recipe? variant = recipe.bind Recipe.ofText?) :
    form.AgreesWith variant recipe := by
  rcases recipe?_cases given with
    ⟨absent, lineFeeds⟩ | ⟨text, pieces, rfl, inPieces, notLineFeed, present, nonempty⟩
  · have size : form.length variant = 0 := by simp [length, absent]
    have refused : ∀ site, form.expand variant site = .error (.noRecipe form.mnemonic variant) :=
      fun site => expand_eq_error_iff.2 ⟨absent, rfl⟩
    refine ⟨?_, fun site => ?_, ?_, fun site expansion success => ?_, fun site error => ?_⟩
    · simp [absent, size]
    · simp [refused, size]
    · simpa [size] using lineFeeds
    · simp [refused] at success
    · simp [refused, size, eq_comm]
  · have size : 0 < form.length variant := by
      simp only [length, present, Option.getD_some]
      exact Nat.mul_pos (by decide) (List.length_pos_iff.2 nonempty)
    have noZero : form.length variant ≠ 0 := Nat.ne_of_gt size
    refine ⟨?_, fun site => ?_, ?_, fun site expansion success => ?_, fun site error => ?_⟩
    · simp [present, size]
    · have expands : ∃ expansion, form.expand variant site = .ok expansion ∧ _ :=
        exists_expand_eq_ok present
      rcases expands with ⟨expansion, success, _⟩
      simp [success, size]
    · simp [size, notLineFeed]
    · rcases statements_of_expand_eq_ok success with ⟨recipe, found, statements⟩
      rw [present, Option.some.injEq] at found
      subst found
      exact ⟨text, pieces, rfl, inPieces, statements, length_of_expand_eq_ok success⟩
    · simp [expand_eq_error_iff, present, noZero]

/-- The sizes of a form made of recipe texts, its expansions and its variants all agree with these
texts, for all statements and wherever they stand. -/
theorem sizes_agree_with_recipe_texts (usage : Text) (standard compact : Option Text)
    (description : Text) :
    (ofTexts usage standard compact description).AgreesWith .standard standard ∧
    (ofTexts usage standard compact description).AgreesWith .compact compact ∧
    ((ofTexts usage standard compact description).compact.isSome ↔
      0 < (ofTexts usage standard compact description).length .compact) := by
  have compactAgrees : (ofTexts usage standard compact description).AgreesWith .compact compact :=
    agreesWith_of_recipe? rfl
  exact ⟨agreesWith_of_recipe? rfl, compactAgrees, compactAgrees.defined⟩

/-- Line feeds alone are no recipe, and around a line they add nothing to it. -/
example :
    let form := ofTexts "nop".toList (some "\n\n".toList) (some "\naddi x0, x0, 0\n".toList) []
    form.length .standard = 0 ∧ form.length .compact = 4 := by
  decide

end Form

end PseudoAsm
