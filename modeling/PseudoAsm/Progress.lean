/-!
# Work that stops at the first error

A list of things is done one after another until one of them fails. What was done before counts,
for it has been noted or printed by then; the whole is a success only if nothing failed.
-/

namespace PseudoAsm

/-- What was done of a list of things, and the error that stopped the work, if any. -/
structure Progress (ε α : Type) where
  done : List α
  stopped : Option ε

namespace Progress

variable {ε α β : Type}

/-- Takes a step for each item, up to the first that fails. -/
def run (step : β → Except ε α) : List β → Progress ε α
  | [] => ⟨[], none⟩
  | item :: items =>
    match step item with
    | .error error => ⟨[], some error⟩
    | .ok result =>
      let later := run step items
      ⟨result :: later.done, later.stopped⟩

/-- The results of all steps, or the error that stopped the work. -/
def result (progress : Progress ε α) : Except ε (List α) :=
  match progress.stopped with
  | none => .ok progress.done
  | some error => .error error

@[simp]
theorem result_run (step : β → Except ε α) (items : List β) :
    (run step items).result = items.mapM step := by
  induction items with
  | nil => rfl
  | cons item items ih =>
    rw [List.mapM_cons, ← ih]
    cases outcome : step item with
    | error error =>
      simp only [run, outcome]
      rfl
    | ok result =>
      simp only [run, outcome, Progress.result]
      cases (run step items).stopped <;> rfl

end Progress

end PseudoAsm
