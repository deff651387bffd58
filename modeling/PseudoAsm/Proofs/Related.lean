import Mathlib.Data.List.Forall2

/-!
# Lists related item by item

Operands are accepted, resolved and moved one by one, and so are the lines of a listing. What holds
of single items carries over to the lists: relations compose, items at the same place are related,
and steps taken for some items can be taken for their images.
-/

namespace PseudoAsm

theorem exists_getElem?_of_forall₂ {α β : Type} {R : α → β → Prop} {left : List α}
    {right : List β} (related : List.Forall₂ R left right) {index : Nat} {item : α}
    (atIndex : left[index]? = some item) : ∃ other, right[index]? = some other ∧ R item other := by
  induction related generalizing index with
  | nil => simp at atIndex
  | @cons first other left right head _ ih =>
      cases index with
      | zero =>
          simp only [List.getElem?_cons_zero, Option.some.injEq] at atIndex
          subst atIndex
          exact ⟨other, rfl, head⟩
      | succ index => exact ih (by simpa using atIndex)

theorem exists_getLast?_of_forall₂ {α β : Type} {R : α → β → Prop} {left : List α}
    {right : List β} (related : List.Forall₂ R left right) {item : α}
    (last : left.getLast? = some item) : ∃ other, right.getLast? = some other ∧ R item other := by
  rw [List.getLast?_eq_getElem?, related.length_eq] at last
  rw [List.getLast?_eq_getElem?]
  exact exists_getElem?_of_forall₂ related last

/-- Items are related to some list if each of them is related to something. -/
theorem exists_forall₂_iff {α β : Type} {R : α → β → Prop} {items : List α} :
    (∃ others, List.Forall₂ R items others) ↔ ∀ item ∈ items, ∃ other, R item other := by
  constructor
  · rintro ⟨others, related⟩ item member
    rcases List.mem_iff_getElem?.1 member with ⟨index, atIndex⟩
    rcases exists_getElem?_of_forall₂ related atIndex with ⟨other, _, holds⟩
    exact ⟨other, holds⟩
  · intro each
    induction items with
    | nil => exact ⟨[], .nil⟩
    | cons item items ih =>
        rcases each item List.mem_cons_self with ⟨other, holds⟩
        rcases ih fun later member => each later (List.mem_cons_of_mem _ member) with
          ⟨others, related⟩
        exact ⟨other :: others, .cons holds related⟩

theorem forall₂_trans {α β γ : Type} {P : α → β → Prop} {Q : β → γ → Prop} {S : α → γ → Prop}
    (compose : ∀ {a b c}, P a b → Q b c → S a c) {first : List α} {second : List β}
    {third : List γ} (left : List.Forall₂ P first second) (right : List.Forall₂ Q second third) :
    List.Forall₂ S first third := by
  induction left generalizing third with
  | nil =>
      cases right
      exact .nil
  | cons head _ ih =>
      cases right with
      | cons otherHead tail => exact .cons (compose head otherHead) (ih tail)

/-- Steps that can be taken for some items can be taken for their images, if each of them can. -/
theorem exists_forall₂_map {α β γ : Type} {P : α → β → Prop} {Q : γ → β → Prop}
    {S : β → β → Prop} (change : α → γ) {items : List α} {results : List β}
    (each : ∀ item ∈ items, ∀ result, P item result →
      ∃ changed, Q (change item) changed ∧ S result changed)
    (done : List.Forall₂ P items results) :
    ∃ changed, List.Forall₂ Q (items.map change) changed ∧ List.Forall₂ S results changed := by
  induction done with
  | nil => exact ⟨[], .nil, .nil⟩
  | @cons item result items results first _ ih =>
      rcases each item List.mem_cons_self result first with ⟨changed, changedOk, same⟩
      rcases ih fun other member => each other (List.mem_cons_of_mem _ member) with
        ⟨later, laterOk, sameLater⟩
      exact ⟨changed :: later, .cons changedOk laterOk, .cons same sameLater⟩

end PseudoAsm
