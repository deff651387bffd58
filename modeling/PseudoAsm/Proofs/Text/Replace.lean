import PseudoAsm.Text.Basic

/-!
# Replacing one text by another

A text is replaced wherever it occurs, from left to right, and what is put in for it is not searched
again within the same replacement. To replace a text in a longer one piece by piece, no occurrence
may start in one piece and end in the next: a piece avoids a text if none of its occurrences starts
in the piece, whatever comes behind.
-/

namespace PseudoAsm.Text

/-- The text with `new` in the place of every occurrence of `old`. -/
def replaceAll (old new : Text) : Text → Text
  | [] => []
  | c :: rest =>
    if old <+: c :: rest then new ++ replaceAll old new (rest.drop (old.length - 1))
    else c :: replaceAll old new rest
termination_by text => text.length
decreasing_by all_goals simp only [List.length_cons, List.length_drop]; omega

/-- The text with `new` in the place of the first occurrence of `old`. -/
def replaceFirst (old new : Text) : Text → Text
  | [] => []
  | c :: rest =>
    if old <+: c :: rest then new ++ rest.drop (old.length - 1)
    else c :: replaceFirst old new rest

/-- No occurrence of the text `old` starts in the piece. -/
def Avoids (piece old : Text) : Prop :=
  ∀ start, start <:+ piece → start ≠ [] → ∀ rest, ¬ old <+: start ++ rest

variable {old new piece rest : Text}

theorem not_isPrefix_append (unstarted : ¬ old <+: piece) (unfinished : ¬ piece <+: old)
    (rest : Text) : ¬ old <+: piece ++ rest := by
  intro starts
  rcases List.prefix_or_prefix_of_prefix starts (List.prefix_append piece rest) with
    within | beyond
  · exact unstarted within
  · exact unfinished beyond

theorem Avoids.tail {c : Char} (avoids : Avoids (c :: piece) old) : Avoids piece old :=
  fun start inPiece => avoids start (inPiece.trans (List.suffix_cons c piece))

theorem Avoids.not_isPrefix {c : Char} (avoids : Avoids (c :: piece) old) (rest : Text) :
    ¬ old <+: c :: (piece ++ rest) :=
  avoids (c :: piece) List.suffix_rfl (List.cons_ne_nil _ _) rest

/-- Text that avoids the old piece is passed over. -/
theorem replaceAll_append_of_avoids (avoids : Avoids piece old) :
    replaceAll old new (piece ++ rest) = piece ++ replaceAll old new rest := by
  induction piece with
  | nil => rfl
  | cons c piece ih =>
      rw [List.cons_append, replaceAll, if_neg (avoids.not_isPrefix rest), ih avoids.tail,
        List.cons_append]

theorem replaceFirst_append_of_avoids (avoids : Avoids piece old) :
    replaceFirst old new (piece ++ rest) = piece ++ replaceFirst old new rest := by
  induction piece with
  | nil => rfl
  | cons c piece ih =>
      rw [List.cons_append, replaceFirst, if_neg (avoids.not_isPrefix rest), ih avoids.tail,
        List.cons_append]

/-- The old piece at the start is replaced. -/
theorem replaceAll_self_append (nonempty : old ≠ []) :
    replaceAll old new (old ++ rest) = new ++ replaceAll old new rest := by
  cases old with
  | nil => exact absurd rfl nonempty
  | cons c later =>
      rw [List.cons_append, replaceAll, ← List.cons_append, if_pos (List.prefix_append _ _),
        List.length_cons, Nat.add_sub_cancel, List.drop_left]

theorem replaceFirst_self_append (nonempty : old ≠ []) :
    replaceFirst old new (old ++ rest) = new ++ rest := by
  cases old with
  | nil => exact absurd rfl nonempty
  | cons c later =>
      rw [List.cons_append, replaceFirst, ← List.cons_append, if_pos (List.prefix_append _ _),
        List.length_cons, Nat.add_sub_cancel, List.drop_left]

end PseudoAsm.Text
