import PseudoAsm.ExpansionError
import PseudoAsm.File.Access
import PseudoAsm.IntegerLiteral
import PseudoAsm.Note
import PseudoAsm.Text.Lowercase

/-!
# Settings

What is used when the command line says nothing: the file of the table, the preferred variant and
the address of the first statement. Settings come from environment variables; a variable that is
empty counts as not set, and an address that is no integer is ignored with a warning.
-/

namespace PseudoAsm

/-- What is used when nothing else is said. -/
structure Settings where
  tablePath : Option Text := none
  preferred : Variant := .standard
  textBase : Int := 0x00400000
  deriving DecidableEq, Repr

/-- Variables with their values. -/
abbrev Environment := List (Text × Text)

namespace Environment

/-- The value of a variable, unless it is empty. -/
def value? (environment : Environment) (name : String) : Option Text :=
  (environment.lookup name.toList).filter (!·.isEmpty)

end Environment

namespace Settings

/-- The words that turn a setting on. -/
def affirmations : List Text :=
  ["1", "true", "yes", "on"].map String.toList

/-- The variant that a setting prefers. -/
def variantOf (text : Text) : Variant :=
  if affirmations.contains (Text.lowercase (Text.trim text)) then .compact else .standard

/-- The settings that an environment makes, and what is worth noting about them. -/
def ofEnvironment (environment : Environment) : Settings × List Note :=
  let settings : Settings := {
    tablePath := (environment.value? "PSEXPAND_TABLE").map PathName.normalize
    preferred := ((environment.value? "PSEXPAND_COMPACT").map variantOf).getD .standard }
  match environment.value? "PSEXPAND_TEXT_BASE" with
  | none => (settings, [])
  | some text =>
    match IntegerLiteral.read? text with
    | some textBase => ({ settings with textBase }, [])
    | none => (settings, [.ignoredTextBase text])

end Settings

end PseudoAsm
