import PseudoAsm.Progress
import PseudoAsm.Table.Basic
import PseudoAsm.Text.Pieces

/-!
# Tables as text

A table is written with one form on a line, in fields between tab characters: the usage, the
templates, the word `COMPACT` and the compact templates if there are any, and a description after
a `#`. Several tabs in a row count as one. A description ends the line, whatever follows it. Lines
that are empty or start with `#` or a space say nothing.

A line that starts with a tab has no usage, and a line may have one `COMPACT` field only; either
fault stops the reading, and its diagnostic shows the line.
-/

namespace PseudoAsm

namespace Table

/-- The field that stands before compact templates. -/
def compactMark : Text := "COMPACT".toList

/-- What is wrong with a line of a table. -/
inductive FormatFault where
  /-- The line starts with a tab. -/
  | noUsage
  /-- The line has a second field for compact templates. -/
  | secondCompact (usage : Text)
  deriving DecidableEq, Repr

/-- A faulty line of a table, with its place. -/
structure FormatError where
  fault : FormatFault
  location : Location
  sourceLine : Text
  deriving DecidableEq, Repr

namespace FormatError

/-- What the user is told. -/
def diagnostic (error : FormatError) : Diagnostic where
  message :=
    match error.fault with
    | .noUsage => "table line has no example form".toList
    | .secondCompact usage =>
      "more than one ".toList ++ compactMark ++ " section for ".toList ++ Text.inApostrophes usage
  location := some error.location
  sourceLine := some error.sourceLine

end FormatError

/-- Whether a line says nothing. -/
def isIgnored (line : Text) : Bool :=
  line.isEmpty || Text.starts "#" line || Text.starts " " line

/-- The fields of a line, which are not empty. -/
def fields (line : Text) : List Text :=
  (line.splitOn '\t').filter (!·.isEmpty)

/-- Whether a field is the description of a form. -/
def isDescription (field : Text) : Bool :=
  Text.starts "#" field

/-- Whether a field stands before compact templates. -/
def isCompactMark (field : Text) : Bool :=
  compactMark.isPrefixOf field

/-- The description among the fields of a line, without its mark. -/
def descriptionOf (fields : List Text) : Text :=
  match fields.dropWhile (!isDescription ·) with
  | [] => []
  | field :: _ => field.tail

/-- The templates among the fields of a line, in one section or more. -/
def sections (fields : List Text) : List Recipe :=
  (fields.takeWhile (!isDescription ·)).splitOnP isCompactMark

/-- Place of the last occurrence of a text that is not empty in another one, counted from 0. -/
def lastOccurrence? (pattern : Text) : Text → Option Nat
  | [] => none
  | c :: rest =>
    match lastOccurrence? pattern rest with
    | some place => some (place + 1)
    | none => if pattern.isPrefixOf (c :: rest) then some 0 else none

/-- The column of the last mark of compact templates on a line. -/
def compactColumn (line : Text) : Int :=
  ((lastOccurrence? compactMark line).getD 0 + 1 : Nat)

/-- The form on a line that is not ignored, given with its number. -/
def readLine (file : Text) (numbered : Text × Nat) : Except FormatError Form :=
  let (line, number) := numbered
  let fault (fault : FormatFault) (column : Int) : Except FormatError Form :=
    .error ⟨fault, ⟨file, number, column⟩, line⟩
  if Text.starts "\t" line then fault .noUsage 1
  else
    match fields line with
    | [] => fault .noUsage 1
    | usage :: rest =>
      match sections rest with
      | [] => .ok ⟨usage, none, none, descriptionOf rest⟩
      | [standard] => .ok ⟨usage, Recipe.ofLines? standard, none, descriptionOf rest⟩
      | [standard, compact] =>
        .ok ⟨usage, Recipe.ofLines? standard, Recipe.ofLines? compact, descriptionOf rest⟩
      | _ => fault (.secondCompact usage) (compactColumn line)

/-- The lines of a text that are not ignored, with their numbers. -/
def numberedLines (text : Text) : List (Text × Nat) :=
  ((Text.lines text).zipIdx 1).filter (!isIgnored ·.1)

/-- Reads the forms of a text, up to the first faulty line. -/
def readForms (file text : Text) : Progress FormatError Form :=
  Progress.run (readLine file) (numberedLines text)

/-- The table that a text spells, or its first faulty line. -/
def ofText (file text : Text) : Except FormatError Table :=
  (readForms file text).result.map ofForms

/-- What is worth noting about the reading of a table. -/
def readingNotes (file : Text) (reading : Progress FormatError Form) : List Note :=
  reading.done.flatMap Form.notes ++
    if reading.stopped.isNone then [.loaded reading.done.length file] else []

end Table

end PseudoAsm
