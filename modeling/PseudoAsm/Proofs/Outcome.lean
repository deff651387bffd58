import Mathlib.Data.List.Forall2

/-!
# Outcomes of work that may fail

A computation that may fail succeeds as a whole exactly when each of its parts does. These are the
inversions by which the expansion of a statement and the passes over a listing are taken apart.
-/

namespace PseudoAsm.Outcome

variable {ε α β : Type}

@[simp]
theorem bind_eq_ok_iff {outcome : Except ε α} {next : α → Except ε β} {result : β} :
    outcome >>= next = .ok result ↔ ∃ value, outcome = .ok value ∧ next value = .ok result := by
  cases outcome with
  | error error => simp [bind, Except.bind]
  | ok value => simp [bind, Except.bind]

@[simp]
theorem map_eq_ok_iff {outcome : Except ε α} {change : α → β} {result : β} :
    outcome.map change = .ok result ↔ ∃ value, outcome = .ok value ∧ change value = result := by
  cases outcome with
  | error error => simp [Except.map]
  | ok value => simp [Except.map]

@[simp]
theorem bind_eq_error_iff {outcome : Except ε α} {next : α → Except ε β} {error : ε} :
    outcome >>= next = .error error ↔
      outcome = .error error ∨ ∃ value, outcome = .ok value ∧ next value = .error error := by
  cases outcome with
  | error other => simp [bind, Except.bind]
  | ok value => simp [bind, Except.bind]

@[simp]
theorem map_eq_error_iff {outcome : Except ε α} {change : α → β} {error : ε} :
    outcome.map change = .error error ↔ outcome = .error error := by
  cases outcome with
  | error other => simp [Except.map]
  | ok value => simp [Except.map]

/-- A list of steps succeeds when every step does, and the results come in the same order. -/
theorem mapM_eq_ok_iff {step : α → Except ε β} {items : List α} {results : List β} :
    items.mapM step = .ok results ↔
      List.Forall₂ (fun item result => step item = .ok result) items results := by
  induction items generalizing results with
  | nil =>
      simp only [List.mapM_nil, List.forall₂_nil_left_iff]
      constructor
      · intro equal
        cases equal
        rfl
      · rintro rfl
        rfl
  | cons item items ih =>
      simp only [List.mapM_cons, bind_eq_ok_iff, List.forall₂_cons_left_iff, ih]
      constructor
      · rintro ⟨first, firstOk, later, laterOk, equal⟩
        cases equal
        exact ⟨first, later, firstOk, laterOk, rfl⟩
      · rintro ⟨first, later, firstOk, laterOk, rfl⟩
        exact ⟨first, firstOk, later, laterOk, rfl⟩

theorem mapM_cons_eq_error_iff {step : α → Except ε β} {first : α} {items : List α} {error : ε} :
    (first :: items).mapM step = .error error ↔
      step first = .error error ∨
        ∃ result, step first = .ok result ∧ items.mapM step = .error error := by
  simp only [List.mapM_cons, bind_eq_error_iff]
  simp [pure, Except.pure]

/-- A list of steps fails with the error of the first step that does. -/
theorem mapM_eq_error_iff {step : α → Except ε β} {items : List α} {error : ε} :
    items.mapM step = .error error ↔
      ∃ before item after, items = before ++ item :: after ∧
        (∀ other ∈ before, ∃ result, step other = .ok result) ∧ step item = .error error := by
  induction items with
  | nil => simp [pure, Except.pure]
  | cons first items ih =>
      simp only [mapM_cons_eq_error_iff, ih]
      constructor
      · rintro (failed | ⟨result, success, before, item, after, rfl, earlier, failed⟩)
        · exact ⟨[], first, items, rfl, by simp, failed⟩
        · refine ⟨first :: before, item, after, rfl, ?_, failed⟩
          intro other member
          rcases List.mem_cons.1 member with rfl | inBefore
          · exact ⟨result, success⟩
          · exact earlier other inBefore
      · rintro ⟨before, item, after, parts, earlier, failed⟩
        cases before with
        | nil =>
            cases parts
            exact .inl failed
        | cons head before =>
            cases parts
            rcases earlier first List.mem_cons_self with ⟨result, success⟩
            exact .inr ⟨result, success, before, item, after, rfl,
              fun other member => earlier other (List.mem_cons_of_mem _ member), failed⟩

/-- A change of the state that each step commutes with also commutes with all the steps together. -/
theorem foldlM_map_of_commutes {step otherStep : β → α → Except ε β} {change : β → β}
    {items : List α} (state : β)
    (commutes : ∀ item ∈ items, ∀ state,
      otherStep (change state) item = (step state item).map change) :
    items.foldlM otherStep (change state) = (items.foldlM step state).map change := by
  induction items generalizing state with
  | nil => rfl
  | cons item items ih =>
      rw [List.foldlM_cons, List.foldlM_cons, commutes item List.mem_cons_self]
      cases step state item with
      | error error => rfl
      | ok next => exact ih next fun other member => commutes other (List.mem_cons_of_mem _ member)

section Related

variable {γ δ : Type} {R : α → β → Prop} {S : γ → δ → Prop}

/-- Two outcomes of which both are the same error, or both are results and related. -/
inductive Related (R : α → β → Prop) : Except ε α → Except ε β → Prop
  | error (error : ε) : Related R (.error error) (.error error)
  | ok {left : α} {right : β} (related : R left right) : Related R (.ok left) (.ok right)

theorem related_bind {left : Except ε α} {right : Except ε β} {next : α → Except ε γ}
    {otherNext : β → Except ε δ} (related : Related R left right)
    (later : ∀ {value other}, R value other → Related S (next value) (otherNext other)) :
    Related S (left >>= next) (right >>= otherNext) := by
  cases related with
  | error error => exact .error error
  | ok values => exact later values

theorem related_map {left : Except ε α} {right : Except ε β} {change : α → γ} {otherChange : β → δ}
    (related : Related R left right)
    (changed : ∀ {value other}, R value other → S (change value) (otherChange other)) :
    Related S (left.map change) (right.map otherChange) := by
  cases related with
  | error error => exact .error error
  | ok values => exact .ok (changed values)

theorem related_self (outcome : Except ε α) : Related Eq outcome outcome := by
  cases outcome with
  | error error => exact .error error
  | ok value => exact .ok rfl

/-- Two lists of steps are related if the steps are, one by one. -/
theorem related_mapM {step : γ → Except ε α} {otherStep : δ → Except ε β} {items : List γ}
    {others : List δ}
    (each : List.Forall₂ (fun item other => Related R (step item) (otherStep other)) items others) :
    Related (List.Forall₂ R) (items.mapM step) (others.mapM otherStep) := by
  induction each with
  | nil => exact .ok .nil
  | cons first _ ih =>
      simp only [List.mapM_cons]
      apply related_bind first
      intro value other sameFirst
      apply related_bind ih
      intro values otherValues sameLater
      exact .ok (.cons sameFirst sameLater)

end Related

end PseudoAsm.Outcome
