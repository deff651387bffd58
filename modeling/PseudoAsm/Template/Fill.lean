import PseudoAsm.Symbol.Scope
import PseudoAsm.Template.Basic

/-!
# Filling templates

A template is filled for one statement: its words, its address and the labels in scope. Markers are
filled independently of each other and of the text put in for them, with one exception: only the
first label marker is filled. A marker that cannot be filled stays as it is written, and the result
says why.
-/

namespace PseudoAsm

/-- What a template is filled for: the words of a statement, mnemonic first and labels replaced by
their addresses, the address of the statement, and the labels in scope. -/
structure Site where
  words : List Text
  pc : Int
  scope : Scope

/-- Why a marker stays. -/
inductive Unfilled where
  /-- The statement has no such operand. -/
  | noOperand
  /-- The operand is no numeral. -/
  | notNumeric (position : Nat) (operand : Text)
  /-- No label stands for the last operand. -/
  | unresolved (cause : Scope.Unresolved) (address : Text)
  /-- A label marker stands before this one. -/
  | laterLabel
  deriving DecidableEq, Repr

namespace Source

/-- The split of a value, as the source of a marker asks for it. -/
def split (source : Source) (value : Word) (pc : Int) : Split :=
  match source with
  | .label | .value => Split.ofWord value
  | .relative => Split.relative value pc

@[simp]
theorem split_label (value : Word) (pc : Int) : label.split value pc = Split.ofWord value := rfl

@[simp]
theorem split_value (word : Word) (pc : Int) : value.split word pc = Split.ofWord word := rfl

@[simp]
theorem split_relative (value : Word) (pc : Int) :
    relative.split value pc = Split.relative value pc := rfl

end Source

namespace Half

/-- The field of a split that a marker asks for. -/
def field (half : Half) (split : Split) : Int :=
  match half with
  | .high => split.high
  | .low => split.low

@[simp]
theorem field_high (split : Split) : high.field split = split.high := rfl

@[simp]
theorem field_low (split : Split) : low.field split = split.low := rfl

end Half

namespace Site

/-- The text that takes the place of a marker. -/
def fill (site : Site) : Marker → Except Unfilled Text
  | .operand position =>
    match site.words[position]? with
    | none => .error .noOperand
    | some word => .ok word
  | .part source half position =>
    match site.words[position]? with
    | none => .error .noOperand
    | some word =>
      match Numeral.word? word with
      | none => .error (.notNumeric position word)
      | some value => .ok (Text.ofInt (half.field (source.split value site.pc)))
  | .label =>
    match site.words with
    | [] | [_] => .error .noOperand
    | _ :: operand :: operands =>
      let address := (operand :: operands).getLast (List.cons_ne_nil _ _)
      match site.scope.resolve address with
      | .error cause => .error (.unresolved cause address)
      | .ok label => .ok label

end Site

/-- What became of a piece of a template. -/
inductive Filling where
  | literal (text : Text)
  | filled (marker : Marker) (text : Text)
  | kept (marker : Marker) (cause : Unfilled)
  deriving DecidableEq, Repr

namespace Filling

/-- What became of a marker, from the attempt to fill it. -/
def ofMarker (marker : Marker) : Except Unfilled Text → Filling
  | .ok text => .filled marker text
  | .error cause => .kept marker cause

/-- What stands in the line for the piece. -/
def text : Filling → Text
  | .literal text => text
  | .filled _ text => text
  | .kept marker _ => marker.text

/-- What is worth noting about the piece. -/
def note? : Filling → Option Note
  | .kept marker (.notNumeric position operand) =>
    some (.notNumeric position operand marker.text)
  | .kept _ (.unresolved cause address) => some (cause.note address)
  | _ => none

end Filling

namespace Template

/-- What becomes of the pieces of a template, when a label marker has been met before or not. -/
def fillingsAfter (site : Site) (labelMet : Bool) : Template → List Filling
  | [] => []
  | .literal text :: rest => .literal text :: fillingsAfter site labelMet rest
  | .marker .label :: rest =>
    (if labelMet then .kept .label .laterLabel else .ofMarker .label (site.fill .label)) ::
      fillingsAfter site true rest
  | .marker marker :: rest =>
    .ofMarker marker (site.fill marker) :: fillingsAfter site labelMet rest

/-- What becomes of the pieces of a template. -/
def fillings (site : Site) (template : Template) : List Filling :=
  fillingsAfter site false template

/-- The line that a template stands for at a site. -/
def fill (site : Site) (template : Template) : Text :=
  (template.fillings site).flatMap Filling.text

@[simp]
theorem fill_nil (site : Site) : fill site [] = [] := rfl

@[simp]
theorem fill_cons_literal (site : Site) (text : Text) (rest : Template) :
    fill site (.literal text :: rest) = text ++ fill site rest := rfl

/-- What is worth noting about the filling, from left to right. -/
def notes (site : Site) (template : Template) : List Note :=
  (template.fillings site).filterMap Filling.note?

end Template

end PseudoAsm
