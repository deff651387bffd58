import PseudoAsm.Text.Basic

/-!
# Words and lines

A blank is a character that separates words: the spaces of every script, the control characters
that move the writing position, and the four information separators. `trim` takes blanks away from
both ends of a text, and `words` lists what stands between blanks.

Text is cut into lines at every character that ends a line in some convention: line feed, carriage
return, vertical tab, form feed, the file, group and record separators, next line, and the line and
paragraph separators. A carriage return with a line feed after it is one break. A break at the very
end of the text starts no further line.
-/

namespace PseudoAsm.Text

section Words

/-- Whether a character separates words. -/
def isBlank (c : Char) : Bool :=
  let code := c.toNat
  (0x09 ≤ code && code ≤ 0x0D) || (0x1C ≤ code && code ≤ 0x20) || code == 0x85 || code == 0xA0 ||
    code == 0x1680 || (0x2000 ≤ code && code ≤ 0x200A) || code == 0x2028 || code == 0x2029 ||
    code == 0x202F || code == 0x205F || code == 0x3000

/-- The text without the blanks at its start. -/
def trimStart (text : Text) : Text :=
  text.dropWhile isBlank

/-- The text without the blanks at its end. -/
def trimEnd (text : Text) : Text :=
  (text.reverse.dropWhile isBlank).reverse

/-- The text without the blanks at its two ends. -/
def trim (text : Text) : Text :=
  trimEnd (trimStart text)

/-- The maximal pieces of the text that hold no blank, in order. -/
def words (text : Text) : List Text :=
  (text.splitOnP isBlank).filter (!·.isEmpty)

end Words

section Lines

/-- Whether a character ends a line. -/
def isLineBreak (c : Char) : Bool :=
  let code := c.toNat
  (0x0A ≤ code && code ≤ 0x0D) || (0x1C ≤ code && code ≤ 0x1E) || code == 0x85 ||
    code == 0x2028 || code == 0x2029

/-- The lines with a character put before the first of them. -/
def extendFirstLine (c : Char) : List Text → List Text
  | [] => [[c]]
  | line :: lines => (c :: line) :: lines

/-- The lines of a text, without their breaks. -/
def lines : Text → List Text
  | [] => []
  | '\r' :: '\n' :: rest => [] :: lines rest
  | c :: rest => if isLineBreak c then [] :: lines rest else extendFirstLine c (lines rest)

/-- The text of whole lines, each ended by a line feed. -/
def unlines (lines : List Text) : Text :=
  lines.flatMap (· ++ ['\n'])

end Lines

end PseudoAsm.Text
