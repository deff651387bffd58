import PseudoAsm.Text.Basic

/-!
# Diagnostics

A diagnostic is a message for the user, with a place in a file, the line that stands there and a
hint, as far as they are known. It is shown on up to four lines: the message behind the place, the
line set in by four blanks, a caret under the column, and the hint. The line and its caret are
shown only together with the place.
-/

namespace PseudoAsm

/-- A place in a file; lines and columns are counted from one. -/
structure Location where
  file : Text
  line : Int
  column : Int
  deriving DecidableEq, Repr

namespace Location

/-- The place as it stands before a message. -/
def render (location : Location) : Text :=
  Text.join ":" [location.file, Text.ofInt location.line, Text.ofInt location.column]

end Location

/-- A message for the user. -/
structure Diagnostic where
  message : Text
  location : Option Location := none
  hint : Option Text := none
  sourceLine : Option Text := none
  deriving DecidableEq, Repr

namespace Diagnostic

/-- The first line: the message, after the place if it is known. -/
def headline (diagnostic : Diagnostic) : Text :=
  let message := "error: ".toList ++ diagnostic.message
  match diagnostic.location with
  | none => message
  | some location => location.render ++ ": ".toList ++ message

/-- The line that puts a caret under a column of a line set in by four blanks. -/
def caretLine (column : Int) : Text :=
  List.replicate (column + 3).toNat ' ' ++ ['^']

/-- The lines that show the place: the text there, and a caret if the column is positive. -/
def excerpt (diagnostic : Diagnostic) : List Text :=
  match diagnostic.location, diagnostic.sourceLine with
  | some location, some sourceLine =>
    ("    ".toList ++ sourceLine) ::
      if 0 < location.column then [caretLine location.column] else []
  | _, _ => []

/-- The line with the hint, if there is one and it says something. -/
def hintLine (diagnostic : Diagnostic) : List Text :=
  match diagnostic.hint with
  | none => []
  | some hint => if hint.isEmpty then [] else ["hint: ".toList ++ hint]

/-- The diagnostic as it is shown: headline, excerpt and hint. -/
def render (diagnostic : Diagnostic) : Text :=
  Text.join "\n" (diagnostic.headline :: diagnostic.excerpt ++ diagnostic.hintLine)

end Diagnostic

end PseudoAsm
