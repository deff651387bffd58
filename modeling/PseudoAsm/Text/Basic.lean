/-!
# Text

Everything the assembler front end reads or writes is text, and text is the list of its characters.
Lengths and positions therefore count code points, and every function on text is an ordinary
recursion on a list.

This file also holds the written forms of numbers: decimal, and hexadecimal of a fixed width.
-/

namespace PseudoAsm

/-- A text is the list of its characters. -/
abbrev Text := List Char

namespace Text

/-- What is said of each character of a text is decided by going through the text, not through all
characters there are. -/
instance (text : Text) (property : Char → Prop) [DecidablePred property] :
    Decidable (∀ c ∈ text, property c) :=
  List.decidableBAll property text

/-- Text of a number in base ten. -/
def ofNat (number : Nat) : Text :=
  Nat.toDigits 10 number

/-- Text of an integer in base ten, with a minus sign when it is negative. -/
def ofInt : Int → Text
  | .ofNat number => ofNat number
  | .negSucc number => '-' :: ofNat (number + 1)

/-- Lower-case hexadecimal text of a number, filled with zeros up to the given width. -/
def hexadecimal (width number : Nat) : Text :=
  List.leftpad width '0' (Nat.toDigits 16 number)

/-- The pieces with the separator between neighbours. -/
def join (separator : String) (pieces : List Text) : Text :=
  separator.toList.intercalate pieces

/-- The text between two apostrophes, with nothing escaped. -/
def inApostrophes (text : Text) : Text :=
  "'".toList ++ text ++ "'".toList

/-- The text before the first occurrence of a character, and the text after it if there is one. -/
def cut (mark : Char) : Text → Text × Option Text
  | [] => ([], none)
  | c :: rest =>
    if c = mark then ([], some rest)
    else
      let (before, after) := cut mark rest
      (c :: before, after)

/-- Whether the first text stands before the second one in the order of code points. -/
def precedes (first second : Text) : Bool :=
  first.lex second fun left right => left.toNat < right.toNat

/-- Whether the first text starts the second one. -/
def starts (beginning : String) (text : Text) : Bool :=
  beginning.toList.isPrefixOf text

end Text

end PseudoAsm
