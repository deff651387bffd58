import Mathlib.Data.List.Basic
import Mathlib.Data.List.Induction
import PseudoAsm.Proofs.Distinct
import PseudoAsm.Proofs.Text.EditDistance

/-!
# What suggestions are

Suggestions are the first different candidates that resemble a word, three at most. This says which
candidates they are and in which order they come, so there is only one such list. That a candidate
comes more than once among the candidates makes no difference.
-/

namespace PseudoAsm

/-- The first of the items that have a property, each once and in their order, up to a limit: those
that are left out come after all that are chosen. -/
structure FirstDistinct {α : Type} [BEq α] (P : α → Prop) (limit : Nat)
    (items chosen : List α) : Prop where
  few : chosen.length ≤ limit
  fitting : ∀ item ∈ chosen, item ∈ items ∧ P item
  ordered : chosen.Pairwise fun first second => items.idxOf first < items.idxOf second
  leftOut : ∀ item ∈ items, P item → item ∉ chosen →
    chosen.length = limit ∧ ∀ other ∈ chosen, items.idxOf other < items.idxOf item

section FirstDistinct

variable {α : Type} [BEq α] {P : α → Prop} {limit : Nat} {items chosen others : List α}

theorem FirstDistinct.nodup (first : FirstDistinct P limit items chosen) : chosen.Nodup := by
  apply first.ordered.imp
  rintro item _ before rfl
  exact Nat.lt_irrefl _ before

/-- Were an item chosen only once, all others chosen would come before it, and these would be chosen
both times: one item too many. -/
theorem FirstDistinct.subset (first : FirstDistinct P limit items chosen)
    (second : FirstDistinct P limit items others) : chosen ⊆ others := by
  intro item member
  by_contra absent
  rcases first.fitting item member with ⟨inItems, fits⟩
  rcases second.leftOut item inItems fits absent with ⟨full, before⟩
  have alsoChosen : item :: others ⊆ chosen := by
    apply List.cons_subset.2
    refine ⟨member, fun other otherMem => ?_⟩
    by_contra otherAbsent
    rcases second.fitting other otherMem with ⟨otherInItems, otherFits⟩
    have after := (first.leftOut other otherInItems otherFits otherAbsent).2 item member
    exact absurd (before other otherMem) (by omega)
  have tooMany := (List.nodup_cons.2 ⟨absent, second.nodup⟩).length_le_of_subset alsoChosen
  have few := first.few
  rw [List.length_cons, full] at tooMany
  omega

/-- The first distinct items are one list: the same items, in the order of their first places. -/
theorem FirstDistinct.unique (first : FirstDistinct P limit items chosen)
    (second : FirstDistinct P limit items others) : chosen = others := by
  have perm : chosen.Perm others := by
    apply (List.perm_ext_iff_of_nodup first.nodup second.nodup).2
    intro item
    exact ⟨fun member => first.subset second member, fun member => second.subset first member⟩
  refine perm.eq_of_pairwise ?_ first.ordered second.ordered
  intro left right _ _ before after
  omega

variable [LawfulBEq α]

/-- Repetitions are taken out behind the first occurrence, so what is left is in order. -/
theorem pairwise_idxOf_eraseDups_filter (p : α → Bool) (items : List α) :
    (items.filter p).eraseDups.Pairwise fun first second =>
      items.idxOf first < items.idxOf second := by
  -- An item at the end has no place in the list before it if it is new, and else changes nothing.
  induction items using List.reverseRecOn with
  | nil => exact .nil
  | append_singleton items item ih =>
      have earlier : (items.filter p).eraseDups.Pairwise fun first second =>
          (items ++ [item]).idxOf first < (items ++ [item]).idxOf second := by
        apply ih.imp_of_mem
        intro first second firstMem secondMem before
        rw [List.mem_eraseDups] at firstMem secondMem
        rwa [List.idxOf_append_of_mem (List.mem_of_mem_filter firstMem),
          List.idxOf_append_of_mem (List.mem_of_mem_filter secondMem)]
      rw [List.filter_append]
      by_cases fits : p item
      · have single : [item].filter p = [item] := by simp [fits]
        rw [single, eraseDups_append_singleton]
        split
        · exact earlier
        · next fresh =>
            have notBefore : item ∉ items := fun member =>
              fresh (List.mem_filter.2 ⟨member, fits⟩)
            apply List.pairwise_append.2
            refine ⟨earlier, List.pairwise_singleton _ _, ?_⟩
            intro first firstMem last lastMem
            rw [List.mem_eraseDups] at firstMem
            have inItems := List.mem_of_mem_filter firstMem
            rw [List.mem_singleton.1 lastMem, List.idxOf_append_of_mem inItems,
              List.idxOf_append_of_notMem notBefore]
            exact Nat.lt_add_right _ (List.idxOf_lt_length_of_mem inItems)
      · simpa [fits] using earlier

/-- To filter, to take out repetitions and to cut off gives the first distinct items. -/
theorem firstDistinct_take_eraseDups {p : α → Bool} (decides : ∀ item, p item = true ↔ P item)
    (limit : Nat) (items : List α) :
    FirstDistinct P limit items ((items.filter p).eraseDups.take limit) := by
  have ordered := pairwise_idxOf_eraseDups_filter p items
  refine ⟨List.length_take_le _ _, ?_, ordered.take, ?_⟩
  · intro item member
    have kept := List.mem_of_mem_take member
    rw [List.mem_eraseDups, List.mem_filter, decides] at kept
    exact kept
  · intro item inItems fits absent
    have kept : item ∈ (items.filter p).eraseDups := by
      rw [List.mem_eraseDups, List.mem_filter, decides]
      exact ⟨inItems, fits⟩
    rw [← List.take_append_drop limit (items.filter p).eraseDups] at kept ordered
    have dropped := (List.mem_append.1 kept).resolve_left absent
    refine ⟨?_, fun other chosen => (List.pairwise_append.1 ordered).2.2 other chosen item dropped⟩
    have longer : limit < (items.filter p).eraseDups.length := by
      by_contra short
      rw [List.drop_eq_nil_of_le (Nat.le_of_not_lt short)] at dropped
      cases dropped
    rw [List.length_take]
    omega

theorem eraseDups_filter_eraseDups (p : α → Bool) (items : List α) :
    (items.eraseDups.filter p).eraseDups = (items.filter p).eraseDups := by
  induction items using List.reverseRecOn with
  | nil => rfl
  | append_singleton items item ih =>
      rw [eraseDups_append_singleton, List.filter_append]
      by_cases fits : p item
      · have single : [item].filter p = [item] := by simp [fits]
        have kept : item ∈ items.filter p ↔ item ∈ items := by simp [fits]
        rw [single, eraseDups_append_singleton, ← ih]
        by_cases known : item ∈ items
        · simp only [known, kept, if_true]
        · rw [if_neg known, if_neg (kept.not.2 known), List.filter_append, single,
            eraseDups_append_singleton, if_neg (by simp [known])]
      · have none : [item].filter p = [] := by simp [fits]
        rw [none, List.append_nil, ← ih]
        split
        · rfl
        · rw [List.filter_append, none, List.append_nil]

end FirstDistinct

namespace Text

/-- A candidate may be meant by a word: both are the same in lower case, or they are of almost the
same length and at most two edits apart in lower case. -/
def Resembles (word candidate : Text) : Prop :=
  lowercase candidate = lowercase word ∨
    ((candidate.length : Int) - word.length).natAbs ≤ 1 ∧
      ∃ count ≤ 2, Edits count (lowercase word) (lowercase candidate)

theorem editDistance_le_iff {text target : Text} {bound : Nat} :
    editDistance text target ≤ bound ↔ ∃ count ≤ bound, Edits count text target := by
  constructor
  · intro near
    exact ⟨_, near, edits_editDistance text target⟩
  · rintro ⟨count, few, edits⟩
    exact edits.editDistance_le.trans few

/-- The test is what it is meant to be: a number of edits, not a table of distances. -/
theorem resembles_iff {word candidate : Text} :
    resembles word candidate = true ↔ Resembles word candidate := by
  have length : candidate.length ≤ word.length + 1 ∧ word.length ≤ candidate.length + 1 ↔
      ((candidate.length : Int) - word.length).natAbs ≤ 1 := by
    omega
  simp only [resembles, Resembles, Bool.or_eq_true, Bool.and_eq_true, beq_iff_eq,
    decide_eq_true_eq, length, editDistance_le_iff]

/-- Suggestions are the first three distinct candidates that resemble the word. -/
theorem suggestions_eq_iff {word : Text} {candidates offered : List Text} :
    offered = suggestions word candidates ↔
      FirstDistinct (Resembles word) 3 candidates offered := by
  have decides : ∀ candidate, resembles word candidate = true ↔ Resembles word candidate :=
    fun _ => resembles_iff
  have first : FirstDistinct (Resembles word) 3 candidates (suggestions word candidates) :=
    firstDistinct_take_eraseDups decides 3 candidates
  constructor
  · rintro rfl
    exact first
  · intro other
    exact other.unique first

theorem suggestions_eraseDups (word : Text) (candidates : List Text) :
    suggestions word candidates.eraseDups = suggestions word candidates := by
  rw [suggestions, eraseDups_filter_eraseDups, suggestions]

end Text

end PseudoAsm
