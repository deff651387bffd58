import PseudoAsm.Proofs.Displacement
import PseudoAsm.Proofs.Table.Instructions

/-!
# Expanding twice is expanding once

What a listing is expanded to is a listing of basic instructions: it defines no labels, and its
lines are passed through as they stand. The built-in table keeps a line that was passed through
before, and it keeps every line that one of its recipes gives. In such a line registers and decimal
numerals are plain; labels are either defined by the listing and plain, too, or they come from
outside, where all that is asked of a name is that it can stand between blanks before a comment.
-/

namespace PseudoAsm

open Statement

/-- Every label in scope is a word and holds no comment sign. -/
def Scope.IsWritable (scope : Scope) : Prop :=
  ∀ table ∈ scope, ∀ symbol ∈ table.symbols, IsSourceWord symbol.name

namespace Site

variable {site : Site}

theorem isSourceWord_rendering_label (writable : site.scope.IsWritable) :
    IsSourceWord (site.rendering .label) := by
  have kept := isSourceWord_of_isPlain Marker.label.isPlain_text
  rw [rendering, rendered?]
  split
  · exact kept
  · cases site.words.getLast? with
    | none => exact kept
    | some word =>
        rw [Option.bind_some, Scope.labelAtText?]
        cases Numeral.word? word with
        | none => exact kept
        | some address =>
            rw [Option.bind_some]
            cases found : site.scope.labelAt? address with
            | none => exact kept
            | some symbol =>
                rcases Scope.exists_mem_of_labelAt? found with ⟨table, member, inTable⟩
                exact writable table member symbol inTable

theorem isPlain_rendering_part (source : Source) (half : Half) (position : Nat) :
    Text.IsPlain (site.rendering (.part source half position)) := by
  have kept := (Marker.part source half position).isPlain_text
  rw [rendering, rendered?]
  cases site.words[position]? with
  | none => exact kept
  | some word =>
      cases spelt : Numeral.word? word with
      | none => simpa [spelt] using kept
      | some value => simpa [spelt] using Text.isPlain_ofInt _

end Site

/-- A register among the operands of a statement is plain: no line feed is left in it. -/
theorem Statement.isPlain_of_mem_operands {line operand : Text} {statement : Statement}
    (read : read? line = some statement) (member : operand ∈ statement.operands)
    (register : Operand.shape operand = .register) : Text.IsPlain operand := by
  rcases isOperand_or_delimiter_of_mem_operands read member with rfl | rfl | isOperand
  · cases register
  · cases register
  · exact Operand.isPlain_of_isRegister (Operand.isRegister_of_shape_eq register) isOperand.isWord

/-- What a marker that speaks of a register stands for is this register. -/
theorem isPlain_rendering_operand {line : Text} {statement : Statement} {form : Form}
    {scope : Scope} {words : List Text} {pc : Int} {position : Nat}
    (read : read? line = some statement)
    (accepts : form.accepts statement.operands = true)
    (resolved : statement.resolve scope = .ok words)
    (fits : (Marker.operand position).fits form.shapes = true) :
    Text.IsPlain (Site.rendering ⟨words, pc, scope⟩ (.operand position)) := by
  have atPosition : Marker.shapeAt? form.shapes position = some .register := by
    simpa [Marker.fits] using fits
  rcases Form.exists_operand_of_shapeAt? accepts resolved atPosition with
    ⟨sample, operand, word, sampleShape, member, accepted, resolves, found⟩
  have register := (Operand.accepts_iff_of_register sampleShape).1 accepted
  rw [Statement.resolveOperand_of_register register, Except.ok.injEq] at resolves
  subst resolves
  have rendered : Site.rendering ⟨words, pc, scope⟩ (.operand position) = operand := by
    simp [Site.rendering, Site.rendered?, found]
  rw [rendered]
  exact Statement.isPlain_of_mem_operands read member register

theorem isPlain_rendering {line : Text} {statement : Statement} {form : Form} {scope : Scope}
    {words : List Text} {pc : Int} {marker : Marker} (read : read? line = some statement)
    (accepts : form.accepts statement.operands = true)
    (resolved : statement.resolve scope = .ok words) (fits : marker.fits form.shapes = true)
    (notLabel : marker ≠ .label) : Text.IsPlain (Site.rendering ⟨words, pc, scope⟩ marker) := by
  cases marker with
  | operand position => exact isPlain_rendering_operand read accepts resolved fits
  | part source half position => exact Site.isPlain_rendering_part source half position
  | label => exact absurd rfl notLabel

namespace Listing

open Table (builtin builtinForms)

variable {expander : Expander} {wanted : Option Variant} {scope : Scope} {line : Text}

/-- The instructions of an expansion are kept as they are. -/
theorem keeps_of_expandForm {statement : Statement} {form : Form} {expansion : Expansion}
    {pc : Int} (writable : scope.IsWritable) (read : read? line = some statement)
    (selected : builtin.select statement = .ok form)
    (expanded : expander.expandForm wanted scope pc form statement = .ok expansion) :
    ∀ generated ∈ expansion.statements, builtin.Keeps generated := by
  rcases Table.mem_formsOf_and_accepts_of_select_eq_ok selected with ⟨ofMnemonic, accepts⟩
  have member := (Table.mem_formsOf_builtin_iff.1 ofMnemonic).1
  rcases Expander.expandForm_eq_ok_iff.1 expanded with ⟨words, resolved, formExpanded⟩
  rcases Form.statements_of_expand_eq_ok formExpanded with ⟨recipe, found, statements⟩
  rw [statements]
  intro generated inExpansion
  rcases List.mem_map.1 inExpansion with ⟨template, inRecipe, rfl⟩
  refine Table.keeps_fill_of_mem_builtinLines (Table.mem_builtinLines member found inRecipe) ?_
    (Site.isSourceWord_rendering_label writable)
  intro marker inLine notLabel
  exact isPlain_rendering read accepts resolved
    (Table.fits_of_mem_markers member (Form.mem_markers found inRecipe inLine)) notLabel

/-- The instructions of an item are kept as they are. -/
theorem keeps_of_lineItem {item : Item} (table : expander.table = builtin)
    (writable : scope.IsWritable) (lineItem : LineItem expander wanted scope line (some item)) :
    ∀ generated ∈ item.expansion.statements, builtin.Keeps generated := by
  cases lineItem with
  | basic _ read refused =>
      intro generated member
      rw [List.mem_singleton] at member
      subst member
      rw [table] at refused
      exact keeps_source read refused
  | pseudo _ read selected expanded =>
      rw [table] at selected
      exact keeps_of_expandForm writable read selected expanded

/-- The labels of a listing can be written on a line. -/
theorem isWritable_of_labels_eq_ok {start : Int} {lines : List Text} {table : SymbolTable}
    {outer : Scope} (labelsOk : labels (layout expander wanted start lines) = .ok table)
    (writable : outer.IsWritable) : Scope.IsWritable (table :: outer) := by
  intro other member symbol inTable
  rcases List.mem_cons.1 member with rfl | inOuter
  · rw [SymbolTable.symbols_of_ofDefinitions_eq_ok labelsOk] at inTable
    rcases List.mem_map.1 inTable with ⟨definition, inDefinitions, rfl⟩
    rcases List.mem_flatMap.1 inDefinitions with ⟨placed, inLayout, inPlaced⟩
    rcases exists_line_of_mem_layout inLayout with ⟨line, _, placedLabels, _⟩
    rcases List.mem_map.1 inPlaced with ⟨label, inLabels, rfl⟩
    rw [placedLabels] at inLabels
    exact isSourceWord_of_isPlain
      (Label.isPlain_of_isName (Label.isName_of_mem_split_fst inLabels))
  · exact writable other inOuter symbol inTable

/-- The statements that a listing is expanded to. -/
def flattened (items : List Item) : List Text :=
  items.flatMap fun item => item.expansion.statements

theorem keeps_of_mem_flattened {outer : Scope} {start : Option Int} {lines : List Text}
    {items : List Item} (table : expander.table = builtin) (writable : outer.IsWritable)
    (success : (ofLines expander wanted outer start lines).result = .ok items) :
    ∀ generated ∈ flattened items, builtin.Keeps generated := by
  intro generated member
  rcases List.mem_flatMap.1 member with ⟨item, inItems, inItem⟩
  rcases exists_linesExpanded_of_ofLines_eq_ok success with
    ⟨defined, contributions, labelsOk, expanded, rfl⟩
  rcases List.mem_iff_getElem?.1 (List.reduceOption_mem_iff.1 inItems) with ⟨index, atIndex⟩
  have flipped : List.Forall₂ (fun contribution line =>
      LineItem expander wanted (defined :: outer) line contribution) contributions lines :=
    expanded.lineItems.flip
  rcases exists_getElem?_of_forall₂ flipped atIndex with ⟨line, _, lineItem⟩
  exact keeps_of_lineItem table (isWritable_of_labels_eq_ok labelsOk writable) lineItem generated
    inItem

/-- The statements that a listing is expanded to define no labels and are expanded to themselves, in
any scope, whichever variant is wanted. -/
theorem expansion_reaches_fixpoint {again : Expander} {outer : Scope} {start restart : Option Int}
    {lines : List Text} {items : List Item} (table : expander.table = builtin)
    (tableAgain : again.table = builtin) (writable : outer.IsWritable)
    (success : (ofLines expander wanted outer start lines).result = .ok items)
    (samePlace : restart.getD again.textBase = start.getD expander.textBase)
    (wantedAgain : Option Variant) (inner : Scope) :
    (∀ generated ∈ flattened items, (Label.split generated).1 = []) ∧
      (ofLines again wantedAgain inner restart (flattened items)).result =
        .ok (keptItems (start.getD expander.textBase) (flattened items)) := by
  have keeps := keeps_of_mem_flattened table writable success
  refine ⟨fun generated member => (keeps generated member).noLabels, ?_⟩
  rw [← samePlace]
  exact result_ofLines_of_keeps (by rwa [tableAgain]) inner restart

/-- A label with a name of signs that mean something elsewhere. -/
def signs : Scope :=
  [⟨SymbolTable.globalName, [⟨"(:,".toList, 8⟩], by decide⟩]

/-- Jumps to labels from outside and from the listing, and a statement that is no
pseudo-instruction. -/
def jumps : List Text :=
  ["a : jal 8".toList, " lw  t0 ,a # load".toList, "b: ADD\tx1,  x2 # :".toList]

theorem expansion_reaches_fixpoint_jumps :
    ∃ items, (ofLines ⟨builtin, .standard, 0x400000⟩ none signs none jumps).result = .ok items ∧
      flattened items = ["jal x1, (:,".toList, "auipc t0, 0".toList, "lw t0, -4(t0)".toList,
        "ADD x1, x2".toList] ∧
      (ofLines ⟨builtin, .compact, 0⟩ none [] (some 0x400000) (flattened items)).result =
        .ok (keptItems 0x400000 (flattened items)) := by
  have expands : (ofLines ⟨builtin, .standard, 0x400000⟩ none signs none jumps).result.map
      flattened = .ok ["jal x1, (:,".toList, "auipc t0, 0".toList, "lw t0, -4(t0)".toList,
        "ADD x1, x2".toList] := rfl
  rcases Outcome.map_eq_ok_iff.1 expands with ⟨items, success, generated⟩
  have writable : signs.IsWritable := by
    simp only [Scope.IsWritable, signs, List.mem_singleton, forall_eq]
    exact ⟨⟨by decide, by decide⟩, by decide⟩
  have table : (Expander.mk builtin .standard 0x400000).table = builtin := rfl
  have tableAgain : (Expander.mk builtin .compact 0).table = builtin := rfl
  have samePlace : (some 0x400000).getD (Expander.mk builtin .compact 0).textBase =
      (none : Option Int).getD (Expander.mk builtin .standard 0x400000).textBase := rfl
  exact ⟨items, success, generated,
    (expansion_reaches_fixpoint table tableAgain writable success samePlace none []).2⟩

end Listing

end PseudoAsm
