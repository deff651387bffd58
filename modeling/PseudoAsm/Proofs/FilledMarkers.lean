import PseudoAsm.Proofs.Operand
import PseudoAsm.Proofs.Table.Builtin
import PseudoAsm.Proofs.Table.Instructions
import PseudoAsm.Proofs.Template.Fill

/-!
# Nothing is left unfilled

A marker that cannot be filled stays in the line, and the expansion succeeds all the same. With the
built-in table this happens in one case only: a branch to a numeral, at whose value no label is
defined. Every other marker is filled, since the example of the operand that a marker speaks of
decides what the operands of a statement are, and these are resolved before the recipe is filled.

For the same reason an expansion by the built-in table fails in three ways only: a mnemonic that is
not known, operands that fit no form, and a label that is not defined.
-/

namespace PseudoAsm

open Table (builtin builtinForms)

/-- What becomes of a piece of a template, if a marker stays only for a numeral that is no label's
address. -/
inductive Supplied (statement : Statement) (site : Site) : Segment → Filling → Prop
  | literal (text : Text) : Supplied statement site (.literal text) (.literal text)
  | operand {position : Nat} {word : Text} (found : site.words[position]? = some word) :
      Supplied statement site (.marker (.operand position)) (.filled (.operand position) word)
  | part {source : Source} {half : Half} {position : Nat} {word : Text} {value : Word}
      (found : site.words[position]? = some word) (spelt : Numeral.word? word = some value) :
      Supplied statement site (.marker (.part source half position))
        (.filled (.part source half position)
          (Text.ofInt (half.field (source.split value site.pc))))
  | label {word : Text} {address : Word} {symbol : Symbol}
      (last : site.words.getLast? = some word) (spelt : Numeral.word? word = some address)
      (found : site.scope.labelAt? address = some symbol)
      (visible : symbol.name ∈ site.scope.names) :
      Supplied statement site (.marker .label) (.filled .label symbol.name)
  | bareAddress {operand : Text} {address : Word} (cause : Scope.Unresolved)
      (last : statement.operands.getLast? = some operand)
      (literal : Operand.shape operand = .immediate address)
      (absent : ∀ table ∈ site.scope, ∀ symbol ∈ table.symbols, symbol.address ≠ address) :
      Supplied statement site (.marker .label) (.kept .label (.unresolved cause operand))

namespace Template

variable {statement : Statement} {site : Site} {template : Template}

theorem forall₂_supplied_fillingsAfter {labelMet : Bool}
    (each : ∀ marker ∈ template.markers,
      Supplied statement site (.marker marker) (.ofMarker marker (site.fill marker)))
    (once : template.markers.count .label ≤ if labelMet then 0 else 1) :
    List.Forall₂ (Supplied statement site) template (fillingsAfter site labelMet template) := by
  induction template generalizing labelMet with
  | nil => exact .nil
  | cons segment template ih =>
      cases segment with
      | literal text =>
          rw [markers_cons_literal] at each once
          exact .cons (.literal text) (ih each once)
      | marker marker =>
          rw [markers_cons_marker] at each once
          have first := each marker List.mem_cons_self
          have later := fun marker member => each marker (List.mem_cons_of_mem _ member)
          cases marker with
          | label =>
              -- Only a second label marker would be treated otherwise than on its own.
              rw [List.count_cons_self] at once
              cases labelMet with
              | true => simp at once
              | false =>
                  exact .cons first (ih later (by simpa using once))
          | operand position =>
              rw [List.count_cons_of_ne (by simp)] at once
              exact .cons first (ih later once)
          | part source half position =>
              rw [List.count_cons_of_ne (by simp)] at once
              exact .cons first (ih later once)

end Template

namespace Form

variable {form : Form} {statement : Statement} {scope : Scope} {words : List Text}

theorem supplied_operand {position : Nat} (pc : Int)
    (accepts : form.accepts statement.operands = true)
    (resolved : statement.resolve scope = .ok words)
    (fits : (Marker.operand position).fits form.shapes = true) :
    Supplied statement ⟨words, pc, scope⟩ (.marker (.operand position))
      (.ofMarker (.operand position) (Site.fill ⟨words, pc, scope⟩ (.operand position))) := by
  have atPosition : Marker.shapeAt? form.shapes position = some .register := by
    simpa [Marker.fits] using fits
  rcases exists_operand_of_shapeAt? accepts resolved atPosition with
    ⟨sample, operand, word, sampleShape, member, accepted, wordOk, found⟩
  rw [Site.fill_operand found]
  exact .operand found

theorem supplied_part {source : Source} {half : Half} {position : Nat} (pc : Int)
    (accepts : form.accepts statement.operands = true)
    (resolved : statement.resolve scope = .ok words)
    (fits : (Marker.part source half position).fits form.shapes = true) :
    Supplied statement ⟨words, pc, scope⟩ (.marker (.part source half position))
      (.ofMarker (.part source half position)
        (Site.fill ⟨words, pc, scope⟩ (.part source half position))) := by
  have atPosition : ∃ shape, Marker.shapeAt? form.shapes position = some shape ∧
      (shape = .label ∨ ∃ expected, shape = .immediate expected) := by
    cases source with
    | label => exact ⟨.label, by simpa [Marker.fits] using fits, .inl rfl⟩
    | relative => exact ⟨.label, by simpa [Marker.fits] using fits, .inl rfl⟩
    | value =>
        rcases (Option.any_eq_true _ _).1 fits with ⟨shape, found, immediate⟩
        exact ⟨shape, found, .inr (Shape.isImmediate_iff.1 immediate)⟩
  rcases atPosition with ⟨shape, atPosition, labelOrImmediate⟩
  rcases exists_operand_of_shapeAt? accepts resolved atPosition with
    ⟨sample, operand, word, rfl, member, accepted, wordOk, found⟩
  -- A label was replaced by its address, and an immediate spells its value itself.
  have numeral : ∃ value, Numeral.word? word = some value := by
    rcases labelOrImmediate with label | ⟨expected, immediate⟩
    · exact Statement.exists_word?_of_resolveOperand label accepted wordOk
    · rcases (Operand.accepts_iff_of_immediate immediate).1 accepted with ⟨value, given, _⟩
      have notLabel : Operand.shape operand ≠ .label := by simp [given]
      rw [Statement.resolveOperand_of_ne_label notLabel, Except.ok.injEq] at wordOk
      subst wordOk
      exact ⟨value, Operand.shape_eq_immediate_iff.1 given⟩
  rcases numeral with ⟨value, spelt⟩
  rw [Site.fill_part found spelt]
  exact .part found spelt

theorem supplied_label (pc : Int) (accepts : form.accepts statement.operands = true)
    (resolved : statement.resolve scope = .ok words)
    (fits : Marker.label.fits form.shapes = true) :
    Supplied statement ⟨words, pc, scope⟩ (.marker .label)
      (.ofMarker .label (Site.fill ⟨words, pc, scope⟩ .label)) := by
  have lastShape : form.shapes.getLast? = some .label := by
    simpa [Marker.fits] using fits
  rcases exists_operand_of_getLast? accepts lastShape with
    ⟨sample, operand, sampleShape, lastOperand, accepted⟩
  rcases Statement.getLast?_of_resolve_eq_ok resolved lastOperand with
    ⟨word, long, lastWord, wordOk⟩
  rcases Statement.exists_word?_of_resolveOperand sampleShape accepted wordOk with
    ⟨address, spelt⟩
  rw [Site.fill_label_of_getLast? long lastWord]
  cases recovered : scope.resolve word with
  | ok name =>
      rcases Scope.resolve_eq_ok_iff.1 recovered with ⟨other, symbol, otherSpelt, found, rfl⟩
      exact .label lastWord otherSpelt found (Scope.name_mem_names_of_labelAt? found)
  | error cause =>
      have noLabel : scope.labelAt? address = none := by
        rw [Option.eq_none_iff_forall_ne_some]
        intro symbol found
        have recovers := Scope.resolve_eq_ok_iff.2 ⟨address, symbol, spelt, found, rfl⟩
        rw [recovered] at recovers
        cases recovers
      -- A label was replaced by its own address, at which there is a label.
      rcases Statement.resolveOperand_eq_ok_iff.1 wordOk with
        ⟨notLabel, rfl⟩ | ⟨defined, isLabel, hasAddress, rfl⟩
      · exact .bareAddress cause lastOperand (Operand.shape_eq_immediate_iff.2 spelt)
          (Scope.labelAt?_eq_none_iff.1 noLabel)
      · rw [Numeral.word?_ofInt_toInt, Option.some.injEq] at spelt
        subst spelt
        have found := Scope.labelAt?_isSome_of_address?_eq_some hasAddress
        rw [noLabel] at found
        cases found

/-- A marker that fits the examples is filled for all operands that they accept. -/
theorem supplied_of_fits {marker : Marker} (pc : Int)
    (accepts : form.accepts statement.operands = true)
    (resolved : statement.resolve scope = .ok words) (fits : marker.fits form.shapes = true) :
    Supplied statement ⟨words, pc, scope⟩ (.marker marker)
      (.ofMarker marker (Site.fill ⟨words, pc, scope⟩ marker)) := by
  cases marker with
  | operand position => exact supplied_operand pc accepts resolved fits
  | part source half position => exact supplied_part pc accepts resolved fits
  | label => exact supplied_label pc accepts resolved fits

end Form

namespace Table

theorem count_label_builtinLines : ∀ line ∈ builtinLines,
    (Template.ofText line).markers.count .label ≤ 1 := by
  decide +kernel

theorem standard_ne_none_of_mem : ∀ form ∈ builtinForms, form.standard ≠ none := by
  decide +kernel

theorem recipe?_ne_none_of_mem {form : Form} (member : form ∈ builtinForms) (expander : Expander)
    (wanted : Option Variant) : form.recipe? (expander.variant wanted form) ≠ none := by
  cases compact : form.compact with
  | none =>
      rw [Expander.recipe?_variant_of_compact_eq_none compact]
      exact standard_ne_none_of_mem form member
  | some recipe =>
      cases expander.variant wanted form with
      | standard => exact standard_ne_none_of_mem form member
      | compact => simp [Form.recipe?, compact]

variable {form : Form} {statement : Statement} {scope : Scope} {words : List Text}
  {variant : Variant} {recipe : Recipe}

/-- All markers of a built-in recipe are filled. -/
theorem supplied_of_mem_builtinForms (pc : Int) (member : form ∈ builtinForms)
    (accepts : form.accepts statement.operands = true)
    (resolved : statement.resolve scope = .ok words)
    (found : form.recipe? variant = some recipe) :
    ∀ line ∈ recipe, List.Forall₂ (Supplied statement ⟨words, pc, scope⟩) (Template.ofText line)
      ((Template.ofText line).fillings ⟨words, pc, scope⟩) := by
  intro line inRecipe
  apply Template.forall₂_supplied_fillingsAfter
  · intro marker inLine
    have fits := fits_of_mem_markers member (Form.mem_markers found inRecipe inLine)
    exact Form.supplied_of_fits pc accepts resolved fits
  · exact count_label_builtinLines line (mem_builtinLines member found inRecipe)

end Table

/-- The expansion by the built-in table fills every marker but the label of a numeral that is no
label's address, and it fails in three ways only. -/
theorem builtin_expansion_fills_markers {expander : Expander} (table : expander.table = builtin)
    (wanted : Option Variant) (scope : Scope) (pc : Int) (line : Text) :
    (∀ statement expansion, Statement.read? line = some statement →
      expander.expand wanted scope pc line = .ok expansion →
      ∃ form recipe words, builtin.select statement = .ok form ∧
        form.recipe? (expander.variant wanted form) = some recipe ∧
        statement.resolve scope = .ok words ∧
        expansion.statements = Form.filledLines ⟨words, pc, scope⟩ recipe ∧
        ∀ template ∈ recipe, List.Forall₂ (Supplied statement ⟨words, pc, scope⟩)
          (Template.ofText template) ((Template.ofText template).fillings ⟨words, pc, scope⟩)) ∧
    (∀ error, expander.expand wanted scope pc line = .error error →
      ∃ statement, Statement.read? line = some statement ∧
        (Table.Refusal statement error ∨
          ∃ operand ∈ statement.operands, Operand.shape operand = .label ∧
            scope.address? operand = none ∧
            error = .undefinedSymbol operand (Text.suggestions operand scope.names))) := by
  refine ⟨?_, ?_⟩
  · intro statement expansion read success
    rcases (Expander.expand_eq_ok_iff read).1 success with ⟨form, selected, formExpanded⟩
    rw [table] at selected
    rcases Table.mem_formsOf_and_accepts_of_select_eq_ok selected with ⟨ofMnemonic, accepts⟩
    have member := (Table.mem_formsOf_builtin_iff.1 ofMnemonic).1
    rcases Expander.expandForm_eq_ok_iff.1 formExpanded with ⟨words, resolved, filled⟩
    rcases Form.statements_of_expand_eq_ok filled with ⟨recipe, found, statements⟩
    have supplied := Table.supplied_of_mem_builtinForms pc member accepts resolved found
    exact ⟨form, recipe, words, selected, found, resolved, statements, supplied⟩
  · intro error failed
    rcases Expander.expand_eq_error_iff.1 failed with ⟨statement, read, cause⟩
    refine ⟨statement, read, ?_⟩
    rw [table] at cause
    rcases cause with refused | ⟨form, selected, unresolved | ⟨words, _, unexpanded⟩⟩
    · exact .inl (Table.refusal_of_select_eq_error refused)
    · rcases Statement.exists_of_resolve_eq_error unresolved with ⟨operand, member, undefined⟩
      exact .inr ⟨operand, member, Statement.resolveOperand_eq_error_iff.1 undefined⟩
    · rcases Table.mem_formsOf_and_accepts_of_select_eq_ok selected with ⟨ofMnemonic, _⟩
      have member := (Table.mem_formsOf_builtin_iff.1 ofMnemonic).1
      have noRecipe := (Form.expand_eq_error_iff.1 unexpanded).1
      exact absurd noRecipe (Table.recipe?_ne_none_of_mem member expander wanted)

/-- One label, at the address 8. -/
def loopScope : Scope :=
  [⟨SymbolTable.globalName, [⟨"loop".toList, 8⟩], by decide⟩]

/-- A branch to an address without a label keeps its marker, and a misspelt label stops the
expansion. -/
theorem builtin_expansion_fills_markers_loopScope :
    (∃ expansion, Expander.expand ⟨builtin, .standard, 0⟩ none loopScope 0
        "beqz t0, 12".toList = .ok expansion ∧
      expansion.statements = ["beq t0, x0, LAB".toList] ∧
      ∃ (recipe : Recipe) (words : List Text),
        expansion.statements = Form.filledLines ⟨words, 0, loopScope⟩ recipe ∧
        ∀ template ∈ recipe,
          List.Forall₂ (Supplied ⟨"beqz".toList, ["t0".toList, "12".toList]⟩ ⟨words, 0, loopScope⟩)
            (Template.ofText template) ((Template.ofText template).fillings ⟨words, 0, loopScope⟩)) ∧
    (∃ statement, Statement.read? "j lop".toList = some statement ∧
      (Table.Refusal statement (.undefinedSymbol "lop".toList ["loop".toList]) ∨
        ∃ operand ∈ statement.operands, Operand.shape operand = .label ∧
          loopScope.address? operand = none ∧
          ExpansionError.undefinedSymbol "lop".toList ["loop".toList] =
            .undefinedSymbol operand (Text.suggestions operand loopScope.names))) := by
  have table : (Expander.mk builtin .standard 0).table = builtin := rfl
  refine ⟨?_, ?_⟩
  · have lines : (Expander.expand ⟨builtin, .standard, 0⟩ none loopScope 0
        "beqz t0, 12".toList).map Expansion.statements = .ok ["beq t0, x0, LAB".toList] := rfl
    rcases Outcome.map_eq_ok_iff.1 lines with ⟨expansion, success, statements⟩
    rcases builtin_expansion_fills_markers table none loopScope 0 "beqz t0, 12".toList with
      ⟨supplies, _⟩
    rcases supplies _ expansion rfl success with ⟨_, recipe, words, _, _, _, filled, supplied⟩
    exact ⟨expansion, success, statements, recipe, words, filled, supplied⟩
  · rcases builtin_expansion_fills_markers table none loopScope 0 "j lop".toList with ⟨_, fails⟩
    exact fails _ rfl

end PseudoAsm
