import PseudoAsm.Text.Pieces

/-!
# Texts made of lines

A text is made of lines by a break after each of them; the last break may be missing unless the line
before it is empty. Such a text is cut into these lines again, whichever breaks were used. A
carriage return is a break on its own only if no line feed follows, since both together are one
break.
-/

namespace PseudoAsm.Text

/-- A line with no break in it. -/
def IsUnbroken (line : Text) : Prop :=
  ∀ c ∈ line, isLineBreak c = false

instance (line : Text) : Decidable (IsUnbroken line) :=
  inferInstanceAs (Decidable (∀ c ∈ line, isLineBreak c = false))

/-- Lines and a text that is made of them. -/
inductive MadeOfLines : List Text → Text → Prop
  | nil : MadeOfLines [] []
  | last {line : Text} (nonempty : line ≠ []) (unbroken : IsUnbroken line) :
      MadeOfLines [line] line
  | cons {line : Text} {lines : List Text} {c : Char} {rest : Text} (unbroken : IsUnbroken line)
      (lineBreak : isLineBreak c = true) (alone : c = '\r' → rest.head? ≠ some '\n')
      (later : MadeOfLines lines rest) : MadeOfLines (line :: lines) (line ++ c :: rest)
  | consPair {line : Text} {lines : List Text} {rest : Text} (unbroken : IsUnbroken line)
      (later : MadeOfLines lines rest) :
      MadeOfLines (line :: lines) (line ++ '\r' :: '\n' :: rest)

variable {line rest : Text} {c : Char}

theorem lines_cons_of_isLineBreak_eq_false (solid : isLineBreak c = false) (rest : Text) :
    lines (c :: rest) = extendFirstLine c (lines rest) := by
  have notReturn : c ≠ '\r' := by
    rintro rfl
    exact absurd solid (by decide)
  rw [lines, if_neg (by simp [solid])]
  intro later isReturn
  exact absurd isReturn notReturn

theorem lines_cons_of_isLineBreak (lineBreak : isLineBreak c = true)
    (alone : c = '\r' → rest.head? ≠ some '\n') : lines (c :: rest) = [] :: lines rest := by
  rw [lines, if_pos lineBreak]
  rintro later isReturn rfl
  exact alone isReturn rfl

/-- A line without breaks is cut off at the break behind it. -/
theorem lines_append_of_isUnbroken {lines : List Text} (unbroken : IsUnbroken line)
    (later : Text.lines rest = [] :: lines) : Text.lines (line ++ rest) = line :: lines := by
  induction line with
  | nil => exact later
  | cons c line ih =>
      have solid := unbroken c List.mem_cons_self
      have unbrokenLater : IsUnbroken line :=
        fun other member => unbroken other (List.mem_cons_of_mem _ member)
      rw [List.cons_append, lines_cons_of_isLineBreak_eq_false solid, ih unbrokenLater,
        extendFirstLine]

theorem lines_of_isUnbroken (nonempty : line ≠ []) (unbroken : IsUnbroken line) :
    Text.lines line = [line] := by
  induction line with
  | nil => exact absurd rfl nonempty
  | cons c line ih =>
      rw [lines_cons_of_isLineBreak_eq_false (unbroken c List.mem_cons_self)]
      by_cases single : line = []
      · subst single
        rfl
      · rw [ih single fun other member => unbroken other (List.mem_cons_of_mem _ member),
          extendFirstLine]

/-- A text made of lines is cut into these lines. -/
theorem lines_of_madeOfLines {lines : List Text} {text : Text} (made : MadeOfLines lines text) :
    Text.lines text = lines := by
  induction made with
  | nil => rfl
  | last nonempty unbroken => exact lines_of_isUnbroken nonempty unbroken
  | cons unbroken lineBreak alone _ ih =>
      apply lines_append_of_isUnbroken unbroken
      rw [lines_cons_of_isLineBreak lineBreak alone, ih]
  | consPair unbroken _ ih =>
      apply lines_append_of_isUnbroken unbroken
      rw [Text.lines, ih]

theorem madeOfLines_unlines {lines : List Text} (unbroken : ∀ line ∈ lines, IsUnbroken line) :
    MadeOfLines lines (unlines lines) := by
  induction lines with
  | nil => exact .nil
  | cons line lines ih =>
      rcases List.forall_mem_cons.1 unbroken with ⟨unbrokenFirst, unbrokenLater⟩
      have whole : unlines (line :: lines) = line ++ '\n' :: unlines lines := by simp [unlines]
      rw [whole]
      exact .cons unbrokenFirst rfl (fun isReturn => absurd isReturn (by decide)) (ih unbrokenLater)

end PseudoAsm.Text
