import PseudoAsm.ExpansionError
import PseudoAsm.Statement
import PseudoAsm.Template.Fill

/-!
# Forms of pseudo-instructions

A form is one way of using a pseudo-instruction: an example of its use, and for each variant a
recipe with the template lines of the instructions that it stands for. Each instruction takes four
bytes, so the size of an expansion is known before any operand is. Either recipe may be missing,
which is not the same as a recipe of no lines.
-/

namespace PseudoAsm

/-- Template lines, in the order of the instructions. -/
abbrev Recipe := List Text

namespace Recipe

/-- Template lines as a recipe, which has at least one line. -/
def ofLines? (templates : List Text) : Option Recipe :=
  if templates.isEmpty then none else some templates

/-- The recipe that a text spells, one template on a line; empty lines do not count. -/
def ofText? (text : Text) : Option Recipe :=
  ofLines? ((text.splitOn '\n').filter (!·.isEmpty))

end Recipe

/-- The bytes of one instruction. -/
def instructionLength : Nat := 4

/-- The instructions that a statement was expanded to, and what was noted on the way. -/
structure Expansion where
  statements : List Text
  notes : List Note
  deriving DecidableEq, Repr

namespace Expansion

/-- The bytes of the instructions. -/
def length (expansion : Expansion) : Nat :=
  instructionLength * expansion.statements.length

end Expansion

/-- One way of using a pseudo-instruction. -/
structure Form where
  usage : Text
  standard : Option Recipe
  compact : Option Recipe
  description : Text
  deriving DecidableEq, Repr

namespace Form

/-- The form whose recipes are given as texts. -/
def ofTexts (usage : Text) (standard compact : Option Text) (description : Text) : Form :=
  ⟨usage, standard.bind Recipe.ofText?, compact.bind Recipe.ofText?, description⟩

/-- What is worth noting when a form is made from texts. -/
def notes (form : Form) : List Note :=
  if form.standard.isNone then [.noRecipe form.usage] else []

/-- The mnemonic: the first word of the usage. -/
def mnemonic (form : Form) : Text :=
  (Text.trimStart form.usage).takeWhile (!Text.isBlank ·)

/-- The operands of the usage, as examples of what the form takes. -/
def operands (form : Form) : List Text :=
  (Statement.tokenize form.usage).tail

/-- The recipe for a variant. -/
def recipe? (form : Form) : Variant → Option Recipe
  | .standard => form.standard
  | .compact => form.compact

/-- The bytes of the expansion in a variant, 0 if the form has no such recipe. -/
def length (form : Form) (variant : Variant) : Nat :=
  instructionLength * ((form.recipe? variant).getD []).length

/-- Whether the operands of a statement fit the examples. -/
def accepts (form : Form) (operands : List Text) : Bool :=
  form.operands.length == operands.length &&
    (form.operands.zip operands).all fun (sample, operand) => Operand.accepts sample operand

/-- The instructions that the form stands for at a site. -/
def expand (form : Form) (variant : Variant) (site : Site) : Except ExpansionError Expansion :=
  match form.recipe? variant with
  | none => .error (.noRecipe form.mnemonic variant)
  | some recipe =>
    let templates := recipe.map Template.ofText
    .ok {
      statements := templates.map (Template.fill site)
      notes :=
        templates.flatMap (Template.notes site) ++
          [.expanded site.words site.pc templates.length] }

end Form

end PseudoAsm
