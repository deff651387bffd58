import PseudoAsm.Proofs.Listing.KeptLines
import PseudoAsm.Proofs.Operand
import PseudoAsm.Proofs.Table.Builtin
import PseudoAsm.Proofs.Table.Markers
import PseudoAsm.Proofs.Template.FilledLines

/-!
# The instructions of the built-in recipes

Some mnemonics of basic instructions are those of pseudo-instructions, too: jumps, loads and stores.
Still no form of the built-in table accepts a line that a built-in recipe gives. Either the line has
more operands than any form of its mnemonic, which shows in the template unless a label is put in;
or its first operand is a register that stands in the template, where the form wants a label. Labels
may have any names that can stand between blanks, parentheses and commas among them.
-/

namespace PseudoAsm.Table

open Statement

/-- The template lines of all recipes. -/
def builtinLines : List Text :=
  builtinForms.flatMap fun form => form.standard.getD [] ++ form.compact.getD []

theorem mem_builtinLines {form : Form} (member : form ∈ builtinForms) {variant : Variant}
    {recipe : Recipe} (found : form.recipe? variant = some recipe) {line : Text}
    (inRecipe : line ∈ recipe) : line ∈ builtinLines := by
  refine List.mem_flatMap.2 ⟨form, member, ?_⟩
  rw [List.mem_append]
  cases variant with
  | standard =>
      rw [Form.recipe?] at found
      exact .inl (by simpa [found] using inRecipe)
  | compact =>
      rw [Form.recipe?] at found
      exact .inr (by simpa [found] using inRecipe)

/-- The first word of a line. -/
def mnemonicOf (line : Text) : Text :=
  line.takeWhile (!Text.isBlank ·)

/-- What stands in a template line after the mnemonic and a blank. -/
def operandsOf (line : Text) : Text :=
  (line.dropWhile (!Text.isBlank ·)).tail

/-- Whether a text starts with a plain character or with a marker other than a label. -/
def startsPlain (text : Text) : Bool :=
  match Marker.leading? text with
  | some .label => false
  | some _ => true
  | none => text.head?.any Text.isPlainCharacter

/-- A template line is a mnemonic without markers, a blank, and operands that start plainly. -/
structure IsInstruction (line : Text) : Prop where
  parts : line = mnemonicOf line ++ ' ' :: operandsOf line
  nonempty : mnemonicOf line ≠ []
  literal : ∀ c ∈ mnemonicOf line, Text.isPlainCharacter c = true ∧ c ∉ Marker.initials
  operands : startsPlain (operandsOf line) = true

/-- Every line of a built-in recipe is written like an instruction. -/
theorem isInstruction_of_mem {line : Text} (member : line ∈ builtinLines) : IsInstruction line := by
  have all : ∀ line ∈ builtinLines, line = mnemonicOf line ++ ' ' :: operandsOf line ∧
      mnemonicOf line ≠ [] ∧
      (∀ c ∈ mnemonicOf line, Text.isPlainCharacter c = true ∧ c ∉ Marker.initials) ∧
      startsPlain (operandsOf line) = true := by
    decide +kernel
  rcases all line member with ⟨parts, nonempty, literal, operands⟩
  exact ⟨parts, nonempty, literal, operands⟩

theorem isTidy_of_mem : ∀ line ∈ builtinLines, isTidy line = true := by
  decide +kernel

/-- A form has another number of operands than a line, and no label is put into the line. -/
def DiffersInArity (form : Form) (line : Text) : Prop :=
  Marker.label ∉ (Template.ofText line).markers ∧
    (splitOperands line).length ≠ form.operands.length + 1

/-- A line has a register for its first operand where a form has a label. -/
def HasRegisterForLabel (form : Form) (line : Text) : Prop :=
  (∀ c ∈ line.takeWhile (· != ','), c ∉ Marker.initials) ∧
    (splitOperands (line.takeWhile (· != ',')))[1]?.map Operand.shape = some .register ∧
      form.shapes.head? = some .label

instance (form : Form) (line : Text) : Decidable (DiffersInArity form line) := by
  unfold DiffersInArity
  infer_instance

instance (form : Form) (line : Text) : Decidable (HasRegisterForLabel form line) := by
  unfold HasRegisterForLabel
  infer_instance

/-- A form with the mnemonic of such a line cannot take its operands. -/
theorem forms_refuse_builtinLines : ∀ line ∈ builtinLines, ∀ form ∈ builtinForms,
    form.mnemonic = Text.lowercase (mnemonicOf line) →
      DiffersInArity form line ∨ HasRegisterForLabel form line := by
  decide +kernel

variable {site : Site} {line : Text}

theorem exists_fill_of_startsPlain {text : Text} (starts : startsPlain text = true)
    (plain : ∀ marker ∈ (Template.ofText text).markers, marker ≠ .label →
      Text.IsPlain (site.rendering marker)) :
    ∃ c rest, (Template.ofText text).fill site = c :: rest ∧ Text.isPlainCharacter c = true := by
  unfold startsPlain at starts
  split at starts
  · cases starts
  · next marker notLabel leading =>
      have isPlain := plain marker (Template.mem_markers_of_leading? leading) notLabel
      have rendered : ∃ after, (Template.ofText text).fill site = site.rendering marker ++ after :=
        Template.exists_fill_ofText_eq_append leading notLabel
      rcases rendered with ⟨after, filled⟩
      rcases List.exists_cons_of_ne_nil isPlain.1 with ⟨c, later, rendering⟩
      refine ⟨c, later ++ after, by rw [filled, rendering, List.cons_append], ?_⟩
      exact isPlain.2 c (by rw [rendering]; exact List.mem_cons_self)
  · next leading =>
      cases text with
      | nil => cases starts
      | cons c rest => exact ⟨c, _, Template.fill_ofText_cons_of_leading?_eq_none leading, starts⟩

/-- What an instruction is filled to starts with its mnemonic, and its operands start plainly. -/
theorem exists_fill_of_isInstruction (instruction : IsInstruction line)
    (plain : ∀ marker ∈ (Template.ofText line).markers, marker ≠ .label →
      Text.IsPlain (site.rendering marker)) :
    ∃ c rest, (Template.ofText line).fill site = mnemonicOf line ++ ' ' :: c :: rest ∧
      Text.isPlainCharacter c = true := by
  have literal : ∀ c ∈ mnemonicOf line ++ [' '], c ∉ Marker.initials := by
    intro c member
    rcases List.mem_append.1 member with inMnemonic | blank
    · exact (instruction.literal c inMnemonic).2
    · rw [List.mem_singleton.1 blank]
      decide
  have parts : mnemonicOf line ++ [' '] ++ operandsOf line = line := by
    rw [List.append_assoc]
    exact instruction.parts.symm
  have markers : (Template.ofText (operandsOf line)).markers = (Template.ofText line).markers := by
    rw [← Template.markers_ofText_append literal, parts]
  have filled : mnemonicOf line ++ [' '] ++ (Template.ofText (operandsOf line)).fill site =
      (Template.ofText line).fill site := by
    rw [← Template.fill_ofText_append literal, parts]
  rw [← markers] at plain
  rcases exists_fill_of_startsPlain instruction.operands plain with ⟨c, rest, operands, isPlain⟩
  refine ⟨c, rest, ?_, isPlain⟩
  rw [← filled, operands, List.append_assoc]
  rfl

theorem not_startsDefinition_of_isPlain {mnemonic rest : Text} {c : Char}
    (mnemonicPlain : Text.IsPlain mnemonic) (plain : Text.isPlainCharacter c = true) :
    ¬ Label.StartsDefinition (Text.words (mnemonic ++ ' ' :: c :: rest)) := by
  have solid := Text.isBlank_eq_false_of_isPlainCharacter plain
  rw [Text.words_append_blank _ _ (by decide), Text.words_of_isWord mnemonicPlain.isWord,
    Text.words_cons_of_not_blank solid, List.takeWhile_cons_of_pos (by simp [solid]),
    List.singleton_append]
  rintro ⟨name, later, words, -, together | apart⟩
  · rw [List.cons.injEq] at together
    have colon : ':' ∈ mnemonic := by
      rw [together.1]
      simp
    exact mnemonicPlain.not_mem (by decide) colon
  · rw [List.cons.injEq, List.cons.injEq, List.cons.injEq] at apart
    rw [apart.2.1.1] at plain
    exact absurd plain (by decide)

/-- Whatever form a filled line might be a statement of, its operands do not fit. -/
theorem accepts_eq_false_of_mem_builtinLines {form : Form} (member : line ∈ builtinLines)
    (formMember : form ∈ builtinForms)
    (mnemonic : form.mnemonic = Text.lowercase (mnemonicOf line))
    (plain : ∀ marker ∈ (Template.ofText line).markers, marker ≠ .label →
      Text.IsPlain (site.rendering marker)) {operands : List Text}
    (split : splitOperands ((Template.ofText line).fill site) = mnemonicOf line :: operands) :
    form.accepts operands = false := by
  rw [Bool.eq_false_iff]
  intro accepts
  have accepted := Form.accepts_iff_forall₂.1 accepts
  rcases forms_refuse_builtinLines line member form formMember mnemonic with
    ⟨noLabel, arity⟩ | ⟨literal, register, label⟩
  · have operandEach : ∀ marker ∈ (Template.ofText line).markers,
        IsOperand (site.rendering marker) := by
      intro marker inLine
      refine isOperand_of_isPlain (plain marker inLine ?_)
      rintro rfl
      exact noLabel inLine
    have count := Template.length_splitOperands_fill operandEach
    rw [split, Template.toText_ofText, List.length_cons, ← accepted.length_eq] at count
    exact arity count.symm
  · have filled : ∃ later, splitOperands ((Template.ofText line).fill site) =
        splitOperands (line.takeWhile (· != ',')) ++ later :=
      Template.exists_splitOperands_fill_eq_append literal
    rcases filled with ⟨later, filled⟩
    rcases Option.map_eq_some_iff.1 register with ⟨first, found, isRegister⟩
    have atSecond : (mnemonicOf line :: operands)[1]? = some first := by
      rw [← split, filled, List.getElem?_append_left (List.getElem?_eq_some_iff.1 found).1, found]
    rw [Form.shapes] at label
    generalize form.operands = samples at accepted label
    cases accepted with
    | nil => cases label
    | @cons sample operand samples operands acceptsFirst _ =>
        rw [List.map_cons, List.head?_cons, Option.some.injEq] at label
        rw [List.getElem?_cons_succ, List.getElem?_cons_zero, Option.some.injEq] at atSecond
        subst atSecond
        rcases (Operand.accepts_iff_of_label label).1 acceptsFirst with isLabel | ⟨value, immediate⟩
        · rw [isLabel] at isRegister
          cases isRegister
        · rw [immediate] at isRegister
          cases isRegister

/-- Every line that a built-in recipe gives is kept, if its label can stand in a line. -/
theorem keeps_fill_of_mem_builtinLines (member : line ∈ builtinLines)
    (plain : ∀ marker ∈ (Template.ofText line).markers, marker ≠ .label →
      Text.IsPlain (site.rendering marker))
    (label : IsSourceWord (site.rendering .label)) :
    builtin.Keeps ((Template.ofText line).fill site) := by
  have instruction := isInstruction_of_mem member
  have mnemonicPlain : Text.IsPlain (mnemonicOf line) :=
    ⟨instruction.nonempty, fun c inMnemonic => (instruction.literal c inMnemonic).1⟩
  have sourceWords : ∀ marker ∈ (Template.ofText line).markers,
      IsSourceWord (site.rendering marker) := by
    intro marker inLine
    by_cases isLabel : marker = .label
    · rwa [isLabel]
    · exact isSourceWord_of_isPlain (plain marker inLine isLabel)
  have tidy : isTidy ((Template.ofText line).fill site) = true := by
    rw [Template.isTidy_fill sourceWords, Template.toText_ofText]
    exact isTidy_of_mem line member
  have noSign := not_mem_of_isTidy tidy
  rcases exists_fill_of_isInstruction instruction plain with ⟨c, rest, filled, isPlain⟩
  refine ⟨?_, source_eq_self_of_isTidy tidy, ?_⟩
  · rw [Label.split_fst_eq_nil_iff_words, filled]
    exact not_startsDefinition_of_isPlain mnemonicPlain isPlain
  · rw [filled] at noSign
    rw [filled, read?_append_blank mnemonicPlain.isWord noSign]
    have split : splitOperands ((Template.ofText line).fill site) =
        mnemonicOf line :: splitOperands (c :: rest) := by
      rw [filled, splitOperands_append_separator _ _ (by decide),
        splitOperands_of_isOperand (isOperand_of_isPlain mnemonicPlain), List.singleton_append]
    -- Why the table refuses the line is left open: the mnemonic may be one of its own or not.
    cases selected : builtin.select ⟨mnemonicOf line, splitOperands (c :: rest)⟩ with
    | error error => exact ⟨_, error, rfl, selected⟩
    | ok form =>
        rcases mem_formsOf_and_accepts_of_select_eq_ok selected with ⟨ofMnemonic, accepts⟩
        rcases mem_formsOf_builtin_iff.1 ofMnemonic with ⟨formMember, mnemonic⟩
        have refuses := accepts_eq_false_of_mem_builtinLines member formMember mnemonic plain split
        exact absurd (accepts.symm.trans refuses) (by decide)

end PseudoAsm.Table
