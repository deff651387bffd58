import PseudoAsm.Text.CharacterSet
import PseudoAsm.Text.Pieces

/-!
# Label definitions

A line of a listing may start with label definitions: a name and a colon, with blanks around the
name. What stands before each colon of the line is looked at in turn, up to the first piece that is
no name; from there on the line is code.
-/

namespace PseudoAsm.Label

/-- Whether a character may start the name of a label. -/
def isStart (c : Char) : Bool :=
  c.isAlpha || c == '_' || c == '.' || c == '$'

/-- Whether a character may continue the name of a label. -/
def isContinuation (c : Char) : Bool :=
  Text.isWordCharacter c || c == '.' || c == '$'

/-- Whether a text is the name of a label. -/
def isName : Text → Bool
  | [] => false
  | c :: rest => isStart c && rest.all isContinuation

/-- The labels at the start of a line, and the code after them, from the pieces of the line between
its colons. -/
def ofPieces : List Text → List Text × Text
  | [] => ([], [])
  | [code] => ([], code)
  | piece :: pieces =>
    let name := Text.trim piece
    if isName name then
      let (labels, code) := ofPieces pieces
      (name :: labels, code)
    else ([], Text.join ":" (piece :: pieces))

/-- The labels that a line starts with, and the code after them. -/
def split (line : Text) : List Text × Text :=
  ofPieces (line.splitOn ':')

end PseudoAsm.Label
