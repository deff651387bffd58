import PseudoAsm.Proofs.Expansion
import PseudoAsm.Proofs.Table.Select
import PseudoAsm.Proofs.Template.Rendering
import PseudoAsm.Table.Builtin

/-!
# Markers and the operands they speak of

A marker that copies an operand fits a register, one that takes a constant apart fits an immediate,
and all others fit a label. In the built-in table every marker of every recipe fits the example of
the operand that it speaks of. Hence what an operand is expanded to is its text only for registers,
and its value for all others. Absolute addresses of labels occur in compact recipes only.
-/

namespace PseudoAsm

namespace Shape

/-- Whether a shape is that of an immediate, of any value. -/
def isImmediate : Shape → Bool
  | .immediate _ => true
  | _ => false

@[simp]
theorem isImmediate_iff {shape : Shape} :
    shape.isImmediate = true ↔ ∃ value, shape = .immediate value := by
  cases shape <;> simp [isImmediate]

end Shape

namespace Marker

/-- The shape of the operand at a position; operands are counted from one. -/
def shapeAt? (shapes : List Shape) : Nat → Option Shape
  | 0 => none
  | position + 1 => shapes[position]?

/-- Whether the operand that a marker speaks of has the shape that the marker is for. -/
def fits (shapes : List Shape) : Marker → Bool
  | .operand position => shapeAt? shapes position == some .register
  | .part .value _ position => (shapeAt? shapes position).any Shape.isImmediate
  | .part _ _ position => shapeAt? shapes position == some .label
  | .label => shapes.getLast? == some .label

/-- Whether a marker stands for a part of an address that is not taken from the program counter. -/
def isAbsolute : Marker → Bool
  | .part .label _ _ => true
  | _ => false

end Marker

namespace Form

/-- The shapes of the operands that a form gives as examples. -/
def shapes (form : Form) : List Shape :=
  form.operands.map Operand.shape

/-- The markers in the recipe of a form. -/
def markers (form : Form) (variant : Variant) : List Marker :=
  ((form.recipe? variant).getD []).flatMap fun line => (Template.ofText line).markers

theorem mem_markers {form : Form} {variant : Variant} {recipe : Recipe} {line : Text}
    {marker : Marker} (found : form.recipe? variant = some recipe) (inRecipe : line ∈ recipe)
    (inLine : marker ∈ (Template.ofText line).markers) : marker ∈ form.markers variant := by
  rw [markers, found]
  exact List.mem_flatMap.2 ⟨line, inRecipe, inLine⟩

/-- Sites that agree on the markers of a recipe fill it alike. -/
theorem filledLines_congr {form : Form} {variant : Variant} {recipe : Recipe} {site other : Site}
    (found : form.recipe? variant = some recipe)
    (same : ∀ marker ∈ form.markers variant, site.rendering marker = other.rendering marker) :
    filledLines site recipe = filledLines other recipe := by
  apply List.map_congr_left
  intro line inRecipe
  exact Template.fill_congr fun marker inLine => same marker (mem_markers found inRecipe inLine)

section Operands

variable {form : Form} {statement : Statement} {scope : Scope} {words : List Text} {shape : Shape}

/-- Where a form gives an example, an accepted statement has an operand and a word for it. -/
theorem exists_operand_of_shapeAt? {position : Nat}
    (accepts : form.accepts statement.operands = true)
    (resolved : statement.resolve scope = .ok words)
    (atPosition : Marker.shapeAt? form.shapes position = some shape) :
    ∃ sample operand word, Operand.shape sample = shape ∧ operand ∈ statement.operands ∧
      Operand.accepts sample operand = true ∧
      Statement.resolveOperand scope operand = .ok word ∧ words[position]? = some word := by
  rcases Statement.resolve_eq_ok_iff.1 resolved with ⟨operandWords, rfl, each⟩
  cases position with
  | zero =>
      -- At this position stands the mnemonic, which no marker that fits speaks of.
      cases atPosition
  | succ position =>
      rw [Marker.shapeAt?, shapes, List.getElem?_map, Option.map_eq_some_iff] at atPosition
      rcases atPosition with ⟨sample, inForm, sampleShape⟩
      rcases exists_getElem?_of_forall₂ (accepts_iff_forall₂.1 accepts) inForm with
        ⟨operand, inStatement, accepted⟩
      rcases exists_getElem?_of_forall₂ each inStatement with ⟨word, found, resolves⟩
      exact ⟨sample, operand, word, sampleShape, List.mem_of_getElem? inStatement, accepted,
        resolves, found⟩

theorem exists_operand_of_getLast? (accepts : form.accepts statement.operands = true)
    (last : form.shapes.getLast? = some shape) :
    ∃ sample operand, Operand.shape sample = shape ∧
      statement.operands.getLast? = some operand ∧ Operand.accepts sample operand = true := by
  rw [shapes, List.getLast?_map, Option.map_eq_some_iff] at last
  rcases last with ⟨sample, lastSample, sampleShape⟩
  rcases exists_getLast?_of_forall₂ (accepts_iff_forall₂.1 accepts) lastSample with
    ⟨operand, lastOperand, accepted⟩
  exact ⟨sample, operand, sampleShape, lastOperand, accepted⟩

end Operands

end Form

namespace Table

/-- Every marker of a built-in recipe finds an operand that it can stand for. -/
theorem markers_fit_builtinForms : ∀ form ∈ builtinForms,
    (∀ marker ∈ form.markers .standard, marker.fits form.shapes ∧ ¬ marker.isAbsolute) ∧
      ∀ marker ∈ form.markers .compact, marker.fits form.shapes := by
  decide +kernel

theorem fits_of_mem_markers {form : Form} (member : form ∈ builtinForms) {variant : Variant}
    {marker : Marker} (inRecipe : marker ∈ form.markers variant) :
    marker.fits form.shapes = true := by
  rcases markers_fit_builtinForms form member with ⟨standard, compact⟩
  cases variant with
  | standard => exact (standard marker inRecipe).1
  | compact => exact compact marker inRecipe

end Table

end PseudoAsm
