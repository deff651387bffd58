import PseudoAsm.Operand
import PseudoAsm.Symbol.Scope
import PseudoAsm.Text.Similarity

/-!
# Statements

A statement is a mnemonic and its operands. On a line it ends where a comment begins. The mnemonic
is the first word between blanks; in what follows, parentheses are operands of their own, and blanks
and commas stand between the others.

Before a statement is expanded, its labels are replaced by their addresses in decimal.
-/

namespace PseudoAsm

/-- A mnemonic and its operands. -/
structure Statement where
  mnemonic : Text
  operands : List Text
  deriving DecidableEq, Repr

namespace Statement

/-- What stands on a line before a comment. -/
def code (line : Text) : Text :=
  line.takeWhile (· != '#')

/-- Puts blanks around a parenthesis. -/
def setApart (c : Char) : Text :=
  if c == '(' || c == ')' then [' ', c, ' '] else [c]

/-- Whether a character stands between operands. -/
def isSeparator (c : Char) : Bool :=
  c == ',' || Text.isBlank c

/-- The operands in a text: parentheses on their own, and what stands between separators. -/
def splitOperands (text : Text) : List Text :=
  ((text.flatMap setApart).splitOnP isSeparator).filter (!·.isEmpty)

/-- The mnemonic and the operands on a line; nothing if the line is blank or a comment. -/
def tokenize (line : Text) : List Text :=
  let text := Text.trimStart (code line)
  if text.isEmpty then []
  else
    text.takeWhile (!Text.isBlank ·) :: splitOperands (text.dropWhile (!Text.isBlank ·))

/-- The statement with the given words, if there are any. -/
def ofWords? : List Text → Option Statement
  | [] => none
  | mnemonic :: operands => some ⟨mnemonic, operands⟩

/-- The statement on a line, if there is one. -/
def read? (line : Text) : Option Statement :=
  ofWords? (tokenize line)

/-- The text of a line without its comment, with single blanks between words. -/
def source (line : Text) : Text :=
  Text.join " " (Text.words (code line))

/-- The mnemonic and the operands. -/
def words (statement : Statement) : List Text :=
  statement.mnemonic :: statement.operands

/-- An operand with its address in place of a label. -/
def resolveOperand (scope : Scope) (operand : Text) : Except ExpansionError Text :=
  match Operand.shape operand with
  | .label =>
    match scope.address? operand with
    | some address => .ok (Text.ofInt address.toInt)
    | none => .error (.undefinedSymbol operand (Text.suggestions operand scope.names))
  | _ => .ok operand

/-- The words of a statement, with addresses in place of the labels among its operands. -/
def resolve (scope : Scope) (statement : Statement) : Except ExpansionError (List Text) :=
  (statement.operands.mapM (resolveOperand scope)).map (statement.mnemonic :: ·)

/-- Words with addresses in place of the labels among them, except for the first word, which is a
mnemonic. -/
def resolveWords (scope : Scope) (words : List Text) : Except ExpansionError (List Text) :=
  match ofWords? words with
  | none => .ok []
  | some statement => statement.resolve scope

end Statement

end PseudoAsm
