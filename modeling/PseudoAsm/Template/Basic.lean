import PseudoAsm.Text.Basic

/-!
# Templates

A template is one line of a recipe: literal text with markers in it. `RGn` stands for operand `n`
as it is written, the two-letter and three-letter markers for one half of its value, and `LAB` for
a label. Operands are counted from one; parentheses count as operands and commas do not.

A text is read from left to right: where a marker starts, it is taken; any other character is
literal. No marker starts inside another one, so nothing is lost or read twice.
-/

namespace PseudoAsm

/-- The half of a split value that a marker stands for. -/
inductive Half where
  | high
  | low
  deriving DecidableEq, Repr

/-- What is split for a marker: the address of a label, a constant, or a distance from the pc. -/
inductive Source where
  | label
  | value
  | relative
  deriving DecidableEq, Repr

/-- A place in a template that is to be filled. -/
inductive Marker where
  | operand (position : Nat)
  | part (source : Source) (half : Half) (position : Nat)
  | label
  deriving DecidableEq, Repr

namespace Source

/-- The letters of a marker that say what is split. -/
def letters : Source → Text
  | .label => "L".toList
  | .value => "V".toList
  | .relative => "PC".toList

end Source

namespace Half

/-- The letter of a marker that says which field is meant. -/
def letter : Half → Char
  | .high => 'H'
  | .low => 'L'

end Half

namespace Marker

/-- The letters of a marker, before its position. -/
def letters : Marker → Text
  | .operand _ => "RG".toList
  | .part source half _ => source.letters ++ [half.letter]
  | .label => "LAB".toList

/-- The position of the operand that a marker speaks of; a label marker has none. -/
def position? : Marker → Option Nat
  | .operand position => some position
  | .part _ _ position => some position
  | .label => none

/-- The marker as it is written. -/
def text (marker : Marker) : Text :=
  match marker.position? with
  | none => marker.letters
  | some position => marker.letters ++ Text.ofNat position

/-- The position that a text starts with: one digit from one to nine. -/
def leadingPosition? : Text → Option Nat
  | [] => none
  | c :: _ => if '1' ≤ c ∧ c ≤ '9' then some (c.toNat - '0'.toNat) else none

/-- The marker that a text starts with. -/
def leading? : Text → Option Marker
  | 'R' :: 'G' :: rest => (leadingPosition? rest).map .operand
  | 'L' :: 'H' :: rest => (leadingPosition? rest).map (.part .label .high)
  | 'L' :: 'L' :: rest => (leadingPosition? rest).map (.part .label .low)
  | 'V' :: 'H' :: rest => (leadingPosition? rest).map (.part .value .high)
  | 'V' :: 'L' :: rest => (leadingPosition? rest).map (.part .value .low)
  | 'P' :: 'C' :: 'H' :: rest => (leadingPosition? rest).map (.part .relative .high)
  | 'P' :: 'C' :: 'L' :: rest => (leadingPosition? rest).map (.part .relative .low)
  | 'L' :: 'A' :: 'B' :: _ => some .label
  | _ => none

end Marker

/-- A piece of a template. -/
inductive Segment where
  | literal (text : Text)
  | marker (marker : Marker)
  deriving DecidableEq, Repr

namespace Segment

/-- The piece as it is written. -/
def text : Segment → Text
  | .literal text => text
  | .marker slot => slot.text

end Segment

/-- A line of a recipe, in pieces. -/
abbrev Template := List Segment

namespace Template

/-- The template with a literal character put before it. -/
def prepend (c : Char) : Template → Template
  | .literal text :: rest => .literal (c :: text) :: rest
  | template => .literal [c] :: template

/-- Reads a text after leaving out its first `skipped` characters. -/
def ofTextFrom (skipped : Nat) : Text → Template
  | [] => []
  | c :: rest =>
    match skipped with
    | skipped + 1 => ofTextFrom skipped rest
    | 0 =>
      match Marker.leading? (c :: rest) with
      | some marker => .marker marker :: ofTextFrom (marker.text.length - 1) rest
      | none => prepend c (ofTextFrom 0 rest)

/-- The template that a line spells. -/
def ofText (text : Text) : Template :=
  ofTextFrom 0 text

/-- The line that spells a template. -/
def toText (template : Template) : Text :=
  template.flatMap Segment.text

end Template

end PseudoAsm
