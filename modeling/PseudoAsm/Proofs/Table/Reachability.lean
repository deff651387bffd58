import PseudoAsm.Proofs.Operand
import PseudoAsm.Proofs.Related
import PseudoAsm.Proofs.Table.Scan
import PseudoAsm.Table.Builtin

/-!
# Reachable forms

Among the forms of a mnemonic the more special ones come first. A form after one that covers it is
never selected, and a form after none that covers it is selected for its own example: what an
example accepts is a preorder on texts, so that the example stands for all operands that it accepts.
-/

namespace PseudoAsm

namespace Operand

variable {sample between operand : Text}

/-- Every example accepts itself. -/
theorem accepts_refl (text : Text) : accepts text text = true := by
  cases shapeOf : shape text with
  | delimiter => exact (accepts_iff_of_delimiter shapeOf).2 rfl
  | register => exact (accepts_iff_of_register shapeOf).2 shapeOf
  | immediate value =>
      apply (accepts_iff_of_immediate shapeOf).2
      exact ⟨value, shapeOf, fun fits => fits⟩
  | label => exact (accepts_iff_of_label shapeOf).2 (.inl shapeOf)

/-- An example accepts whatever a text accepts that it accepts itself. -/
theorem accepts_trans (first : accepts sample between = true)
    (second : accepts between operand = true) : accepts sample operand = true := by
  cases sampleShape : shape sample with
  | delimiter =>
      have same := (accepts_iff_of_delimiter sampleShape).1 first
      subst same
      exact second
  | register =>
      have register := (accepts_iff_of_register sampleShape).1 first
      apply (accepts_iff_of_register sampleShape).2
      exact (accepts_iff_of_register register).1 second
  | immediate expected =>
      rcases (accepts_iff_of_immediate sampleShape).1 first with ⟨middle, immediate, fits⟩
      rcases (accepts_iff_of_immediate immediate).1 second with ⟨given, given?, stillFits⟩
      apply (accepts_iff_of_immediate sampleShape).2
      exact ⟨given, given?, fun expectedFits => stillFits (fits expectedFits)⟩
  | label =>
      apply (accepts_iff_of_label sampleShape).2
      rcases (accepts_iff_of_label sampleShape).1 first with label | ⟨value, immediate⟩
      · exact (accepts_iff_of_label label).1 second
      · rcases (accepts_iff_of_immediate immediate).1 second with ⟨given, given?, _⟩
        exact .inr ⟨given, given?⟩

theorem isPreorder_accepts :
    IsPreorder Text fun sample operand => accepts sample operand = true where
  refl := accepts_refl
  trans _ _ _ := accepts_trans

end Operand

namespace Form

variable {form other : Form} {statement : Statement}

/-- The example of a form as a statement. -/
def sample (form : Form) : Statement :=
  ⟨form.mnemonic, form.operands⟩

/-- A form covers another one if it fits the example of the other one. -/
def Covers (form other : Form) : Prop :=
  form.Fits other.sample

instance : Decidable (form.Covers other) :=
  decidable_of_iff _ fits_iff.symm

/-- A form fits the statement that is spelt like its usage. -/
theorem fits_sample (form : Form) : form.Fits form.sample := by
  refine ⟨rfl, ?_⟩
  apply List.forall₂_same.2
  intro operand _
  exact Operand.accepts_refl operand

/-- A form that covers another one fits whatever the other one fits. -/
theorem Covers.fits (covers : form.Covers other) (fits : other.Fits statement) :
    form.Fits statement where
  mnemonic := covers.mnemonic.trans fits.mnemonic
  operands := by
    refine forall₂_trans ?_ covers.operands fits.operands
    exact Operand.accepts_trans

example :
    (Table.plainForm "li t1,10000000" [] "").Covers (Table.plainForm "li t1,-100" [] "") ∧
      ¬ (Table.plainForm "li t1,-100" [] "").Covers (Table.plainForm "li t1,10000000" [] "") := by
  decide +kernel

end Form

namespace Table

variable {statement : Statement} {before after : List Form} {form : Form}

/-- The form at a position is the one that is selected for a statement. A form that a table has
twice is selected where it stands first. -/
def SelectsAt (table : Table) (statement : Statement) (position : Nat) : Prop :=
  ∃ form, table.forms[position]? = some form ∧ form ∉ table.forms.take position ∧
    table.select statement = .ok form

/-- A form is selected if and only if it fits and no earlier form does. -/
theorem selectsAt_length_iff :
    (ofForms (before ++ form :: after)).SelectsAt statement before.length ↔
      form.Fits statement ∧ ∀ other ∈ before, ¬ other.Fits statement := by
  constructor
  · rintro ⟨selected, atPosition, notEarlier, isSelected⟩
    have same : form = selected := by simpa [ofForms] using atPosition
    subst same
    have notEarlier : form ∉ before := by simpa [ofForms] using notEarlier
    rcases select_eq_ok_iff_first.1 isSelected with ⟨sooner, later, parts, fits, refuse⟩
    refine ⟨fits, ?_⟩
    intro other member
    -- The table is taken apart in two ways at one form, which does not stand earlier.
    rcases List.append_eq_append_iff.1 parts with
      ⟨between, rfl, _⟩ | ⟨between, rfl, tail⟩
    · exact refuse other (List.mem_append_left _ member)
    · cases between with
      | nil => exact refuse other (by simpa using member)
      | cons first between =>
          rw [List.cons_append, List.cons.injEq] at tail
          exact absurd (by simp [tail.1]) notEarlier
  · rintro ⟨fits, refuse⟩
    refine ⟨form, by simp [ofForms], ?_, ?_⟩
    · intro member
      exact refuse form (by simpa [ofForms] using member) fits
    · exact select_eq_ok_iff_first.2 ⟨before, after, rfl, fits, refuse⟩

/-- A form that no earlier form covers is selected for its own example. -/
theorem selectsAt_sample (uncovered : ∀ other ∈ before, ¬ other.Covers form) :
    (ofForms (before ++ form :: after)).SelectsAt form.sample before.length :=
  selectsAt_length_iff.2 ⟨form.fits_sample, uncovered⟩

/-- Behind a form that covers it, a form is never selected. -/
theorem not_covers_of_selectsAt
    (selects : (ofForms (before ++ form :: after)).SelectsAt statement before.length)
    {other : Form} (earlier : other ∈ before) : ¬ other.Covers form := by
  intro covers
  rcases selectsAt_length_iff.1 selects with ⟨fits, refuse⟩
  exact refuse other earlier (covers.fits fits)

theorem pairwise_not_covers_builtinForms :
    builtinForms.Pairwise fun other form => ¬ other.Covers form := by
  decide +kernel

/-- Each form of the built-in table is selected for its own example. -/
theorem selectsAt_sample_builtin (parts : builtinForms = before ++ form :: after) :
    builtin.SelectsAt form.sample before.length := by
  have uncovered : ∀ other ∈ before, ¬ other.Covers form := by
    intro other member
    have pairwise := pairwise_not_covers_builtinForms
    rw [parts, List.pairwise_append] at pairwise
    exact pairwise.2.2 other member form List.mem_cons_self
  rw [builtin, parts]
  exact selectsAt_sample uncovered

/-- A form is reachable if and only if no earlier form covers its example, which rests on what
examples accept being a preorder. -/
theorem form_reachable_iff_not_covered (before after : List Form) (form : Form) :
    IsPreorder Text (fun sample operand => Operand.accepts sample operand = true) ∧
    ((∃ operands, (ofForms (before ++ form :: after)).SelectsAt ⟨form.mnemonic, operands⟩
        before.length) ↔
      ∀ other ∈ before, ¬ other.Covers form) := by
  refine ⟨Operand.isPreorder_accepts, ?_⟩
  constructor
  · rintro ⟨operands, selects⟩ other earlier
    exact not_covers_of_selectsAt selects earlier
  · intro uncovered
    exact ⟨form.operands, selectsAt_sample uncovered⟩

end Table

end PseudoAsm
