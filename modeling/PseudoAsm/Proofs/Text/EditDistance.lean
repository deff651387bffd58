import Mathlib.Order.Bounds.Basic
import PseudoAsm.Text.Similarity

/-!
# The edit distance as a metric

The edit distance of two texts is the least number of edits that lead from one to the other, where
an edit inserts, deletes or exchanges one character anywhere. The rows that it is computed by hold
what a plain recursion on both texts gives, and this recursion passes over a character that both
texts start with at no cost. That this is never a loss follows from one fact: to put a character
before a text changes its distance to any target by one at most. So an edit does the same wherever
it is made, and no run of edits is shorter than the distance.

Rows grow at their ends, and the recursion takes texts apart at their beginnings. So what is
computed is the recursive distance of both texts read backwards, and runs of edits can be read
backwards as well. The triangle inequality and the bound by the lengths are facts about runs of
edits, which can be joined and taken back.
-/

namespace PseudoAsm.Text

/-- One insertion, deletion or exchange of a character. -/
inductive Edit : Text → Text → Prop where
  | insertion (before after : Text) (c : Char) : Edit (before ++ after) (before ++ c :: after)
  | deletion (before after : Text) (c : Char) : Edit (before ++ c :: after) (before ++ after)
  | exchange (before after : Text) (c d : Char) :
      Edit (before ++ c :: after) (before ++ d :: after)

/-- A run of as many edits as given that leads from one text to another. -/
inductive Edits : Nat → Text → Text → Prop where
  | none (text : Text) : Edits 0 text text
  | next {count : Nat} {text between target : Text} (edit : Edit text between)
      (edits : Edits count between target) : Edits (count + 1) text target

/-- The edit distance by recursion on both texts, from their first characters on. -/
def distance : Text → Text → Nat
  | [], target => target.length
  | c :: text, [] => (c :: text).length
  | c :: text, d :: target =>
    if c = d then distance text target
    else 1 + min (distance text target)
      (min (distance text (d :: target)) (distance (c :: text) target))

@[simp]
theorem distance_nil_left (target : Text) : distance [] target = target.length := by
  rw [distance]

@[simp]
theorem distance_nil_right (text : Text) : distance text [] = text.length := by
  cases text with
  | nil => rw [distance]
  | cons c text => rw [distance]

theorem distance_cons_cons (c d : Char) (text target : Text) :
    distance (c :: text) (d :: target) =
      if c = d then distance text target
      else 1 + min (distance text target)
        (min (distance text (d :: target)) (distance (c :: text) target)) := by
  rw [distance]

section Bounds

variable {text target : Text}

/-- An insertion on one side is a deletion on the other. -/
theorem distance_comm (text target : Text) :
    distance text target = distance target text := by
  induction text generalizing target with
  | nil => simp
  | cons c text ihText =>
      induction target with
      | nil => simp
      | cons d target ihTarget =>
          rw [distance_cons_cons, distance_cons_cons, ihText, ihText, ihTarget,
            min_comm (distance (d :: target) text)]
          simp only [eq_comm]

theorem distance_cons_left_le_of (c : Char)
    (near : ∀ d target, distance text target ≤ distance text (d :: target) + 1)
    (target : Text) : distance (c :: text) target ≤ distance text target + 1 := by
  cases target with
  | nil => simp
  | cons d target =>
      have shorter := near d target
      rw [distance_cons_cons]
      split
      · exact shorter
      · omega

/-- To take a character off the target costs one at most. -/
theorem distance_le_cons_right (text : Text) (d : Char) (target : Text) :
    distance text target ≤ distance text (d :: target) + 1 := by
  induction text generalizing d target with
  | nil =>
      simp only [distance_nil_left, List.length_cons]
      omega
  | cons c text ih =>
      have fromTail := distance_cons_left_le_of c ih target
      have shorter := ih d target
      rw [distance_cons_cons]
      split
      · exact fromTail
      · omega

theorem distance_cons_left_le (c : Char) (text target : Text) :
    distance (c :: text) target ≤ distance text target + 1 :=
  distance_cons_left_le_of c (distance_le_cons_right text) target

theorem distance_le_cons_left (c : Char) (text target : Text) :
    distance text target ≤ distance (c :: text) target + 1 := by
  rw [distance_comm text, distance_comm (c :: text)]
  exact distance_le_cons_right target c text

theorem distance_cons_right_le (text : Text) (d : Char) (target : Text) :
    distance text (d :: target) ≤ distance text target + 1 := by
  rw [distance_comm text, distance_comm text]
  exact distance_cons_left_le d target text

/-- To exchange the first character costs one at most. -/
theorem distance_exchange_le (c d : Char) (text target : Text) :
    distance (c :: text) target ≤ distance (d :: text) target + 1 := by
  induction target with
  | nil => simp
  | cons e target ih =>
      have deleted := distance_cons_left_le c text (e :: target)
      have inserted := distance_cons_right_le (c :: text) e target
      have both : distance (c :: text) (e :: target) ≤ distance text target + 1 := by
        rw [distance_cons_cons]
        split <;> omega
      -- However `d :: text` comes to the target, `c :: text` can go the same way and one more edit.
      rw [distance_cons_cons d e]
      split <;> omega

/-- What holds of an edit at the start of a text holds of it behind any other character. -/
theorem distance_cons_le_cons (c : Char) {text between : Text}
    (near : ∀ target, distance text target ≤ distance between target + 1)
    (target : Text) :
    distance (c :: text) target ≤ distance (c :: between) target + 1 := by
  induction target with
  | nil =>
      have shorter := near []
      simp only [distance_nil_right, List.length_cons] at shorter ⊢
      omega
  | cons d target ih =>
      have passed := near target
      have deleted := near (d :: target)
      rw [distance_cons_cons, distance_cons_cons]
      split <;> omega

theorem distance_append_le_append (before : Text) {text between : Text}
    (near : ∀ target, distance text target ≤ distance between target + 1)
    (target : Text) :
    distance (before ++ text) target ≤ distance (before ++ between) target + 1 := by
  induction before generalizing target with
  | nil => exact near target
  | cons c before ih => exact distance_cons_le_cons c ih target

/-- One edit brings a text nearer to a target by one at most. -/
theorem Edit.distance_le {between : Text} (edit : Edit text between) (target : Text) :
    distance text target ≤ distance between target + 1 := by
  cases edit with
  | insertion before after c =>
      exact distance_append_le_append before (distance_le_cons_left c after) target
  | deletion before after c =>
      exact distance_append_le_append before (distance_cons_left_le c after) target
  | exchange before after c d =>
      exact distance_append_le_append before (distance_exchange_le c d after) target

theorem distance_self (text : Text) : distance text text = 0 := by
  induction text with
  | nil => simp
  | cons c text ih => rw [distance_cons_cons, if_pos rfl, ih]

/-- No run of edits is shorter than the distance. -/
theorem Edits.distance_le {count : Nat} (edits : Edits count text target) :
    distance text target ≤ count := by
  induction edits with
  | none text => rw [distance_self]
  | @next count text between target edit edits ih =>
      have first := edit.distance_le target
      omega

end Bounds

section Runs

variable {first second : Nat} {text between target : Text}

theorem Edit.cons (c : Char) (edit : Edit text target) : Edit (c :: text) (c :: target) := by
  cases edit with
  | insertion before after d => exact .insertion (c :: before) after d
  | deletion before after d => exact .deletion (c :: before) after d
  | exchange before after d e => exact .exchange (c :: before) after d e

theorem Edits.cons (c : Char) (edits : Edits first text target) :
    Edits first (c :: text) (c :: target) := by
  induction edits with
  | none text => exact .none (c :: text)
  | next edit edits ih => exact .next (edit.cons c) ih

theorem Edit.symm (edit : Edit text target) : Edit target text := by
  cases edit with
  | insertion before after c => exact .deletion before after c
  | deletion before after c => exact .insertion before after c
  | exchange before after c d => exact .exchange before after d c

theorem Edit.reverse (edit : Edit text target) : Edit text.reverse target.reverse := by
  cases edit with
  | insertion before after c => simpa using Edit.insertion after.reverse before.reverse c
  | deletion before after c => simpa using Edit.deletion after.reverse before.reverse c
  | exchange before after c d => simpa using Edit.exchange after.reverse before.reverse c d

/-- Runs of edits can be read backwards. -/
theorem Edits.reverse (edits : Edits first text target) :
    Edits first text.reverse target.reverse := by
  induction edits with
  | none text => exact .none text.reverse
  | next edit edits ih => exact .next edit.reverse ih

/-- Runs of edits can be joined. -/
theorem Edits.trans (edits : Edits first text between) (later : Edits second between target) :
    Edits (first + second) text target := by
  induction edits with
  | none text =>
      rw [Nat.zero_add]
      exact later
  | next edit edits ih =>
      rw [Nat.add_right_comm]
      exact .next edit (ih later)

/-- Runs of edits can be taken back. -/
theorem Edits.symm (edits : Edits first text target) : Edits first target text := by
  induction edits with
  | none text => exact .none text
  | next edit edits ih => exact ih.trans (.next edit.symm (.none _))

theorem Edits.eq_of_zero (edits : Edits 0 text target) : text = target := by
  cases edits with
  | none => rfl

theorem Edit.length_le (edit : Edit text target) : text.length ≤ target.length + 1 := by
  cases edit with
  | insertion | deletion | exchange =>
      simp only [List.length_append, List.length_cons]
      omega

theorem Edits.length_le (edits : Edits first text target) :
    text.length ≤ target.length + first := by
  induction edits with
  | none text => exact Nat.le_refl _
  | next edit edits ih =>
      have step := edit.length_le
      omega

theorem edits_min (left : Edits (first + 1) text target) (right : Edits (second + 1) text target) :
    Edits (min first second + 1) text target := by
  rcases Nat.le_total first second with le | ge
  · rwa [Nat.min_eq_left le]
  · rwa [Nat.min_eq_right ge]

theorem edits_nil_left (target : Text) : Edits target.length [] target := by
  induction target with
  | nil => exact .none []
  | cons d target ih => exact .next (.insertion [] [] d) (ih.cons d)

/-- The distance is reached: where the texts start alike nothing is done, and elsewhere one of the
three edits leads to texts that are nearer by one. -/
theorem edits_distance (text target : Text) : Edits (distance text target) text target := by
  induction text generalizing target with
  | nil =>
      rw [distance_nil_left]
      exact edits_nil_left target
  | cons c text ihText =>
      induction target with
      | nil =>
          rw [distance_nil_right]
          exact (edits_nil_left (c :: text)).symm
      | cons d target ihTarget =>
          have exchanged : Edits (distance text target + 1) (c :: text) (d :: target) :=
            .next (.exchange [] text c d) ((ihText target).cons d)
          have deleted : Edits (distance text (d :: target) + 1) (c :: text) (d :: target) :=
            .next (.deletion [] text c) (ihText (d :: target))
          have inserted : Edits (distance (c :: text) target + 1) (c :: text) (d :: target) :=
            .next (.insertion [] (c :: text) d) (ihTarget.cons d)
          rw [distance_cons_cons]
          split
          · next same =>
              subst same
              exact (ihText target).cons c
          · rw [Nat.add_comm]
            exact edits_min exchanged (edits_min deleted inserted)

end Runs

section Rows

variable {c : Char} {text passed : Text}

/-- Distances of a text to `passed` and to what it becomes as the characters of a target are put
before it one by one. -/
def distancesFrom (text passed : Text) : Text → List Nat
  | [] => [distance text passed]
  | d :: target => distance text passed :: distancesFrom text (d :: passed) target

theorem distancesFrom_nil (passed target : Text) :
    distancesFrom [] passed target = List.range' passed.length (target.length + 1) := by
  induction target generalizing passed with
  | nil => simp [distancesFrom]
  | cons d target ih =>
      rw [distancesFrom, ih, distance_nil_left, List.length_cons, List.length_cons]
      exact List.range'_succ.symm

theorem headD_distancesFrom (text passed target : Text) :
    (distancesFrom text passed target).headD 0 = distance text passed := by
  cases target with
  | nil => rfl
  | cons d target => rfl

theorem getLastD_distancesFrom (text passed target : Text) (other : Nat) :
    (distancesFrom text passed target).getLastD other =
      distance text (target.reverse ++ passed) := by
  induction target generalizing passed other with
  | nil => rfl
  | cons d target ih =>
      rw [distancesFrom, List.getLastD_cons, ih, List.reverse_cons, List.append_assoc]
      rfl

/-- Each row is made from the one before: its entries are those of the recursion. -/
theorem extendRow_distancesFrom (c : Char) (text passed target : Text) :
    distance (c :: text) passed ::
        extendRow c (distance (c :: text) passed) target (distancesFrom text passed target) =
      distancesFrom (c :: text) passed target := by
  induction target generalizing passed with
  | nil => rfl
  | cons d target ih =>
      rw [distancesFrom, distancesFrom, ← ih, extendRow, headD_distancesFrom,
        distance_cons_cons]
      simp only [beq_iff_eq]

/-- The row at the end holds the distances of the whole text. -/
theorem lastRow_distancesFrom (target taken text : Text) :
    lastRow target taken.length (distancesFrom taken [] target) text =
      distancesFrom (text.reverse ++ taken) [] target := by
  induction text generalizing taken with
  | nil => rfl
  | cons c text ih =>
      have row := extendRow_distancesFrom c taken [] target
      rw [distance_nil_right, List.length_cons] at row
      rw [lastRow, row, List.reverse_cons, List.append_assoc]
      exact ih (c :: taken)

theorem distanceByRows_eq (text target : Text) :
    distanceByRows text target = distance text.reverse target.reverse := by
  have first : List.range (target.length + 1) = distancesFrom [] [] target := by
    rw [distancesFrom_nil, List.range_eq_range', List.length_nil]
  have last := lastRow_distancesFrom target [] text
  rw [List.length_nil, List.append_nil] at last
  rw [distanceByRows, first, last, getLastD_distancesFrom, List.append_nil]

/-- The rows give the recursive distance of both texts read backwards, whichever text they run
along. -/
theorem editDistance_eq (text target : Text) :
    editDistance text target = distance text.reverse target.reverse := by
  rw [editDistance]
  split
  · rw [distanceByRows_eq, distance_comm]
  · exact distanceByRows_eq text target

/-- There are as many edits between two texts as their distance says. -/
theorem edits_editDistance (text target : Text) : Edits (editDistance text target) text target := by
  have edits := (edits_distance text.reverse target.reverse).reverse
  rwa [List.reverse_reverse, List.reverse_reverse, ← editDistance_eq] at edits

/-- No run of edits is shorter than the edit distance. -/
theorem Edits.editDistance_le {count : Nat} {text target : Text}
    (edits : Edits count text target) : editDistance text target ≤ count := by
  rw [editDistance_eq]
  exact edits.reverse.distance_le

theorem editDistance_comm (text target : Text) :
    editDistance text target = editDistance target text := by
  rw [editDistance_eq, editDistance_eq, distance_comm]

end Rows

/-- The edit distance is the least number of edits between two texts, and with it texts are a metric
space; it is not less than the difference of the lengths. -/
theorem editDistance_is_least_metric (text target : Text) :
    IsLeast {count | Edits count text target} (editDistance text target) ∧
      (editDistance text target = 0 ↔ text = target) ∧
      editDistance text target = editDistance target text ∧
      (∀ between : Text,
        editDistance text target ≤ editDistance text between + editDistance between target) ∧
      ((text.length : Int) - target.length).natAbs ≤ editDistance text target := by
  have reached := edits_editDistance text target
  have least : IsLeast {count | Edits count text target} (editDistance text target) :=
    ⟨reached, fun _ edits => edits.editDistance_le⟩
  refine ⟨least, ?_, editDistance_comm text target, ?_, ?_⟩
  · constructor
    · intro zero
      rw [zero] at reached
      exact reached.eq_of_zero
    · rintro rfl
      exact Nat.le_zero.1 (Edits.none text).editDistance_le
  · intro between
    exact ((edits_editDistance text between).trans
      (edits_editDistance between target)).editDistance_le
  · have forward := reached.length_le
    have backward := reached.symm.length_le
    omega

/-- Two exchanges and one insertion. -/
example : editDistance "kitten".toList "sitting".toList = 3 := by
  decide

end PseudoAsm.Text
