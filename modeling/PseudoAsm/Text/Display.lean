import PseudoAsm.Text.CharacterSet

/-!
# Text as it is shown

Messages quote the text they speak of so that it can be read back from one line: between
apostrophes, or between quotation marks when it holds apostrophes and no quotation mark. The quote
in use and the backslash are written after a backslash, the usual three layout characters have
letters, and any other character that is not printable is written by its code point.

A stream that is not a terminal gets no terminal control sequences: an escape character, an opening
bracket, parameters made of digits, semicolons and question marks, and a final letter.
-/

namespace PseudoAsm.Text

section Quoted

/-- The mark that stands around a quoted text. -/
def quoteMark (text : Text) : Char :=
  if text.contains '\x27' && !text.contains '"' then '"' else '\x27'

/-- A character as it is written inside the given quotes. -/
def escape (mark c : Char) : Text :=
  if c == mark || c == '\\' then ['\\', c]
  else if c == '\n' then "\\n".toList
  else if c == '\r' then "\\r".toList
  else if c == '\t' then "\\t".toList
  else if isPrintable c then [c]
  else if c.toNat < 0x100 then "\\x".toList ++ hexadecimal 2 c.toNat
  else if c.toNat < 0x10000 then "\\u".toList ++ hexadecimal 4 c.toNat
  else "\\U".toList ++ hexadecimal 8 c.toNat

/-- A text as it is quoted in a message. -/
def quoted (text : Text) : Text :=
  let mark := quoteMark text
  mark :: text.flatMap (escape mark) ++ [mark]

end Quoted

section Plain

/-- Whether a character may stand among the parameters of a control sequence. -/
def isSequenceParameter (c : Char) : Bool :=
  c == ';' || c == '?' || c.isDigit

/-- Length of the control sequence that a text starts with, 0 when it starts with none. -/
def sequenceLength : Text → Nat
  | '\x1b' :: '[' :: rest =>
    let parameters := rest.takeWhile isSequenceParameter
    match rest.drop parameters.length with
    | final :: _ => if final.isAlpha then parameters.length + 3 else 0
    | [] => 0
  | _ => 0

/-- The text without its control sequences, after leaving out the first `skipped` characters. -/
def plainFrom (skipped : Nat) : Text → Text
  | [] => []
  | c :: rest =>
    match skipped, sequenceLength (c :: rest) with
    | skipped + 1, _ => plainFrom skipped rest
    | 0, 0 => c :: plainFrom 0 rest
    | 0, length + 1 => plainFrom length rest

/-- The text without its terminal control sequences. -/
def plain (text : Text) : Text :=
  plainFrom 0 text

end Plain

end PseudoAsm.Text
