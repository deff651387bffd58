import Mathlib.Tactic.MkIffOfInductiveProp
import PseudoAsm.Proofs.Text.Lines
import PseudoAsm.Table.Format

/-!
# Tables written and read

What can be said of a form can be written on a line of a table, and it is read from there as it was
given: the usage, the templates, the compact templates if there are any, and the description. The
texts must not hold what parts fields or lines, and must not be taken for something else: a usage
that starts like a comment makes its line one, and a template that starts with `#` or `COMPACT` ends
the templates. How many tabs stand between two fields does not matter, nor which breaks end the
lines and what is written between them in lines that say nothing.
-/

namespace PseudoAsm

namespace Recipe

theorem ofText?_join {templates : List Text}
    (each : ∀ template ∈ templates, template ≠ [] ∧ '\n' ∉ template) :
    ofText? (Text.join "\n" templates) = ofLines? templates := by
  by_cases empty : templates = []
  · subst empty
    rfl
  · have split : (Text.join "\n" templates).splitOn '\n' = templates :=
      List.splitOn_intercalate '\n' (fun template member => (each template member).2) empty
    have kept : templates.filter (!·.isEmpty) = templates := by
      rw [List.filter_eq_self]
      intro template member
      simp [(each template member).1]
    rw [ofText?, split, kept]

end Recipe

namespace Table

/-- Fields and a line that they are written on, with one tab or more between two of them. -/
inductive Separated : List Text → Text → Prop
  | last (field : Text) : Separated [field] field
  | cons {fields : List Text} {rest : Text} (field : Text) (tabs : Nat)
      (later : Separated fields rest) :
      Separated (field :: fields) (field ++ List.replicate (tabs + 1) '\t' ++ rest)

section Fields

variable {field rest line : Text}

theorem fields_append_tab (noTab : '\t' ∉ field) (rest : Text) :
    fields (field ++ '\t' :: rest) = [field].filter (!·.isEmpty) ++ fields rest := by
  rw [fields, List.splitOn_append_cons_self_of_not_mem noTab, fields, ← List.singleton_append,
    List.filter_append]

theorem fields_replicate_tab (tabs : Nat) (rest : Text) :
    fields (List.replicate tabs '\t' ++ rest) = fields rest := by
  induction tabs with
  | zero => rfl
  | succ tabs ih =>
      have noTab : '\t' ∉ ([] : Text) := List.not_mem_nil
      have noField := fields_append_tab noTab (List.replicate tabs '\t' ++ rest)
      rw [ih] at noField
      exact noField

/-- Fields with tabs between them, one or more, are read back. -/
theorem fields_of_separated {written : List Text} (separated : Separated written line)
    (each : ∀ field ∈ written, field ≠ [] ∧ '\t' ∉ field) : fields line = written := by
  induction separated with
  | last field =>
      rcases each field List.mem_cons_self with ⟨nonempty, noTab⟩
      rw [fields, List.splitOn_eq_singleton noTab]
      simp [nonempty]
  | @cons later rest field tabs _ ih =>
      rcases each field List.mem_cons_self with ⟨nonempty, noTab⟩
      rw [List.append_assoc, List.replicate_succ, List.cons_append, fields_append_tab noTab,
        fields_replicate_tab, ih fun other member => each other (List.mem_cons_of_mem _ member)]
      simp [nonempty]

end Fields

section Lines

variable {line : Text}

theorem isPrefixOf_singleton_iff {c : Char} {text : Text} :
    [c].isPrefixOf text = true ↔ text.head? = some c := by
  cases text with
  | nil => simp
  | cons other rest => simpa using eq_comm

@[simp]
theorem isDescription_iff {field : Text} : isDescription field = true ↔ field.head? = some '#' :=
  isPrefixOf_singleton_iff

/-- A line says nothing if it is empty or starts with a comment sign or a space. -/
@[simp]
theorem isIgnored_iff :
    isIgnored line = true ↔ line = [] ∨ line.head? = some '#' ∨ line.head? = some ' ' := by
  rw [isIgnored, Bool.or_eq_true, Bool.or_eq_true, List.isEmpty_iff, or_assoc]
  exact or_congr Iff.rfl (or_congr isPrefixOf_singleton_iff isPrefixOf_singleton_iff)

theorem readLine_eq_ok {file : Text} {number : Nat} {usage : Text} {rest standard : List Text}
    {compact : Option (List Text)} (noTab : line.head? ≠ some '\t')
    (fieldsEq : fields line = usage :: rest)
    (sectionsEq : sections rest = standard :: compact.toList) :
    readLine file (line, number) =
      .ok ⟨usage, Recipe.ofLines? standard, compact.bind Recipe.ofLines?, descriptionOf rest⟩ := by
  have notTab : Text.starts "\t" line = false := by
    rw [Bool.eq_false_iff]
    exact mt isPrefixOf_singleton_iff.1 noTab
  simp only [readLine, notTab, fieldsEq, sectionsEq]
  cases compact with
  | none => rfl
  | some templates => rfl

end Lines

/-- What is said of a form: its usage, its templates, its compact templates if it has a recipe with
them, and its description. -/
structure Definition where
  usage : Text
  standard : List Text
  compact : Option (List Text)
  description : Text

namespace Definition

/-- The form that is defined, with each recipe given as a text of one template on a line. -/
def form (definition : Definition) : Form :=
  Form.ofTexts definition.usage (some (Text.join "\n" definition.standard))
    (definition.compact.map (Text.join "\n")) definition.description

/-- All templates of a definition, the compact ones last. -/
def templates (definition : Definition) : List Text :=
  definition.standard ++ definition.compact.getD []

/-- The fields of compact templates, behind their mark. -/
def compactFields : Option (List Text) → List Text
  | none => []
  | some templates => compactMark :: templates

/-- What is written for a definition. -/
def fields (definition : Definition) : List Text :=
  definition.usage ::
    (definition.standard ++ compactFields definition.compact ++ ['#' :: definition.description])

/-- A definition that can be written on a line. -/
@[mk_iff]
structure IsWritable (definition : Definition) : Prop where
  usage : definition.usage ≠ [] ∧ definition.usage.head? ≠ some '#' ∧
    definition.usage.head? ≠ some ' '
  templates : ∀ template ∈ definition.templates, template ≠ [] ∧ template.head? ≠ some '#' ∧
    ¬ "COMPACT".toList <+: template
  compact : definition.compact ≠ some []
  solid : ∀ text ∈ definition.usage :: definition.description :: definition.templates,
    '\t' ∉ text ∧ Text.IsUnbroken text

instance (definition : Definition) : Decidable definition.IsWritable :=
  decidable_of_iff' _ (isWritable_iff definition)

variable {definition : Definition}

theorem solid_of_mem_templates (writable : definition.IsWritable) {template : Text}
    (member : template ∈ definition.templates) : '\t' ∉ template ∧ Text.IsUnbroken template :=
  writable.solid template (List.mem_cons_of_mem _ (List.mem_cons_of_mem _ member))

theorem bind_ofLines?_compact (writable : definition.IsWritable) :
    definition.compact.bind Recipe.ofLines? = definition.compact := by
  cases compact : definition.compact with
  | none => rfl
  | some templates =>
      have nonempty : templates ≠ [] := by
        rintro rfl
        exact writable.compact compact
      simp [Recipe.ofLines?, nonempty]

theorem form_eq (writable : definition.IsWritable) :
    definition.form =
      ⟨definition.usage, Recipe.ofLines? definition.standard, definition.compact,
        definition.description⟩ := by
  have each : ∀ template ∈ definition.templates, template ≠ [] ∧ '\n' ∉ template := by
    intro template member
    refine ⟨(writable.templates template member).1, ?_⟩
    intro lineFeed
    exact absurd ((solid_of_mem_templates writable member).2 _ lineFeed) (by decide)
  have compactEq := bind_ofLines?_compact writable
  rcases definition with ⟨usage, standard, compact, description⟩
  have ofStandard : Recipe.ofText? (Text.join "\n" standard) = Recipe.ofLines? standard :=
    Recipe.ofText?_join fun template member => each template (List.mem_append_left _ member)
  have ofCompact : (compact.map (Text.join "\n")).bind Recipe.ofText? =
      compact.bind Recipe.ofLines? := by
    cases compact with
    | none => rfl
    | some templates =>
        exact Recipe.ofText?_join fun template member =>
          each template (List.mem_append_right _ member)
  simp only [form, Form.ofTexts, Option.bind_some, ofStandard, ofCompact, compactEq]

/-- Between the usage and the description stand the templates and the mark of the compact ones. -/
theorem eq_or_mem_templates {field : Text}
    (member : field ∈ definition.standard ++ compactFields definition.compact) :
    field = compactMark ∨ field ∈ definition.templates := by
  rcases definition with ⟨usage, standard, compact, description⟩
  rcases List.mem_append.1 member with inStandard | inCompact
  · exact .inr (List.mem_append_left _ inStandard)
  · cases compact with
    | none => cases inCompact
    | some templates =>
        rcases List.mem_cons.1 inCompact with isMark | inTemplates
        · exact .inl isMark
        · exact .inr (List.mem_append_right _ inTemplates)

theorem isField_of_mem_fields (writable : definition.IsWritable) :
    ∀ field ∈ definition.fields, field ≠ [] ∧ '\t' ∉ field := by
  intro field member
  rw [fields, List.mem_cons, List.mem_append, List.mem_singleton] at member
  rcases member with rfl | inside | rfl
  · exact ⟨writable.usage.1, (writable.solid _ List.mem_cons_self).1⟩
  · rcases eq_or_mem_templates inside with rfl | isTemplate
    · exact ⟨by decide, by decide⟩
    · exact ⟨(writable.templates field isTemplate).1,
        (solid_of_mem_templates writable isTemplate).1⟩
  · have solid := writable.solid definition.description
      (List.mem_cons_of_mem _ List.mem_cons_self)
    refine ⟨List.cons_ne_nil _ _, ?_⟩
    rw [List.mem_cons, not_or]
    exact ⟨by decide, solid.1⟩

theorem isDescription_eq_false (writable : definition.IsWritable) {field : Text}
    (member : field ∈ definition.standard ++ compactFields definition.compact) :
    isDescription field = false := by
  rcases eq_or_mem_templates member with rfl | isTemplate
  · decide
  · rw [Bool.eq_false_iff, ne_eq, isDescription_iff]
    exact (writable.templates field isTemplate).2.1

/-- The templates of a definition are in one section, or in two if it has compact ones. -/
theorem sections_eq (writable : definition.IsWritable) :
    sections (definition.standard ++ compactFields definition.compact ++
        ['#' :: definition.description]) =
      definition.standard :: definition.compact.toList := by
  have noMark : ∀ template ∈ definition.templates, isCompactMark template = false := by
    intro template member
    rw [Bool.eq_false_iff, ne_eq, isCompactMark, List.isPrefixOf_iff_prefix]
    exact (writable.templates template member).2.2
  rw [sections, List.takeWhile_append_of_pos fun field member => by
      simp [isDescription_eq_false writable member],
    List.takeWhile_cons_of_neg (by simp), List.append_nil]
  rcases definition with ⟨usage, standard, compact, description⟩
  have single : ∀ templates : List Text, (∀ template ∈ templates, isCompactMark template = false) →
      templates.splitOnP isCompactMark = [templates] :=
    fun templates => List.splitOnP_eq_singleton
  cases compact with
  | none =>
      rw [compactFields, List.append_nil]
      exact single standard fun template member => noMark template (List.mem_append_left _ member)
  | some templates =>
      rw [compactFields, List.splitOnP_append_cons _ _ (by decide),
        single standard fun template member => noMark template (List.mem_append_left _ member),
        single templates fun template member => noMark template (List.mem_append_right _ member)]
      rfl

theorem descriptionOf_eq (writable : definition.IsWritable) :
    descriptionOf (definition.standard ++ compactFields definition.compact ++
      ['#' :: definition.description]) = definition.description := by
  rw [descriptionOf, List.dropWhile_append_of_pos fun field member => by
      simp [isDescription_eq_false writable member],
    List.dropWhile_cons_of_neg (by simp)]
  rfl

theorem exists_line_eq_usage_append {line : Text} (separated : Separated definition.fields line) :
    ∃ rest, line = definition.usage ++ rest := by
  rw [fields] at separated
  generalize definition.standard ++ compactFields definition.compact ++
    ['#' :: definition.description] = later at separated
  cases separated with
  | last => exact ⟨[], (List.append_nil _).symm⟩
  | cons field tabs later => exact ⟨_, List.append_assoc _ _ _⟩

/-- The line of a definition is read back as its form. -/
theorem readLine_of_separated {line : Text} (writable : definition.IsWritable)
    (separated : Separated definition.fields line) (file : Text) (number : Nat) :
    isIgnored line = false ∧ readLine file (line, number) = .ok definition.form := by
  rcases writable.usage with ⟨nonempty, notComment, notBlank⟩
  have noTab := (writable.solid _ List.mem_cons_self).1
  have readFields := fields_of_separated separated (isField_of_mem_fields writable)
  have head : line.head? = definition.usage.head? := by
    rcases exists_line_eq_usage_append separated with ⟨rest, rfl⟩
    rcases List.exists_cons_of_ne_nil nonempty with ⟨c, later, isUsage⟩
    rw [isUsage]
    rfl
  refine ⟨?_, ?_⟩
  · rw [Bool.eq_false_iff, ne_eq, isIgnored_iff, head]
    rintro (empty | comment | blank)
    · rw [empty, List.head?_nil, eq_comm, List.head?_eq_none_iff] at head
      exact nonempty head
    · exact notComment comment
    · exact notBlank blank
  · have noTabFirst : line.head? ≠ some '\t' := by
      rw [head]
      exact fun tab => noTab (List.mem_of_head? tab)
    rw [readLine_eq_ok noTabFirst readFields (sections_eq writable), descriptionOf_eq writable,
      form_eq writable, bind_ofLines?_compact writable]

end Definition

/-- The lines of definitions, with any lines that say nothing between them. -/
inductive Written : List Definition → List Text → Prop
  | nil : Written [] []
  | ignored {definitions : List Definition} {lines : List Text} {line : Text}
      (saysNothing : line = [] ∨ line.head? = some '#' ∨ line.head? = some ' ')
      (later : Written definitions lines) : Written definitions (line :: lines)
  | definition {definition : Definition} {definitions : List Definition} {line : Text}
      {lines : List Text} (separated : Separated definition.fields line)
      (later : Written definitions lines) :
      Written (definition :: definitions) (line :: lines)

/-- All definitions are read back, whatever lines that say nothing are between them. -/
theorem mapM_readLine_of_written {file : Text} {definitions : List Definition} {lines : List Text}
    (writable : ∀ definition ∈ definitions, definition.IsWritable)
    (written : Written definitions lines) (number : Nat) :
    ((lines.zipIdx number).filter (!isIgnored ·.1)).mapM (readLine file) =
      .ok (definitions.map Definition.form) := by
  -- Line numbers only serve to tell where a fault is, so they are left open.
  induction written generalizing number with
  | nil => rfl
  | @ignored definitions lines line saysNothing later ih =>
      rw [List.zipIdx_cons, List.filter_cons_of_neg (by simp [isIgnored_iff.2 saysNothing])]
      exact ih writable _
  | @definition definition definitions line lines separated later ih =>
      rcases Definition.readLine_of_separated (writable definition List.mem_cons_self) separated
        file number with ⟨counts, read⟩
      have readLater := ih (fun other member => writable other (List.mem_cons_of_mem _ member))
        (number + 1)
      rw [List.zipIdx_cons, List.filter_cons_of_pos (by simp [counts]), List.mapM_cons, read,
        readLater]
      rfl

/-- A file of definitions gives the table that is made of them, and its forms hold all that was
said. -/
theorem written_table_is_read_back {file text : Text} {definitions : List Definition}
    {lines : List Text} (writable : ∀ definition ∈ definitions, definition.IsWritable)
    (written : Written definitions lines) (made : Text.MadeOfLines lines text) :
    ofText file text = .ok (ofForms (definitions.map Definition.form)) ∧
      ∀ definition ∈ definitions, definition.form =
        ⟨definition.usage, Recipe.ofLines? definition.standard, definition.compact,
          definition.description⟩ := by
  refine ⟨?_, fun definition member => Definition.form_eq (writable definition member)⟩
  rw [ofText, readForms, Progress.result_run, numberedLines, Text.lines_of_madeOfLines made,
    mapM_readLine_of_written writable written]
  rfl

/-- A form without a recipe, and one with both recipes. -/
def twoDefinitions : List Definition :=
  [⟨"foo t1".toList, [], none, []⟩,
    ⟨"j label".toList, ["auipc x6, PCH1".toList, "jalr x0, x6, PCL1".toList],
      some ["jal x0, LAB".toList], "Jump # far".toList⟩]

/-- Two definitions among lines that say nothing. -/
def twoDefinitionsLines : List Text :=
  ["# forms".toList, "foo t1\t#".toList, [], [],
    "j label\t\tauipc x6, PCH1\tjalr x0, x6, PCL1\tCOMPACT\tjal x0, LAB\t#Jump # far".toList]

/-- The lines with breaks of several kinds, and none at the end. -/
def twoDefinitionsText : Text :=
  "# forms\nfoo t1\t#\r\n\r\x0c".toList ++
    "j label\t\tauipc x6, PCH1\tjalr x0, x6, PCL1\tCOMPACT\tjal x0, LAB\t#Jump # far".toList

theorem written_table_is_read_back_twoDefinitions :
    ofText "ops.txt".toList twoDefinitionsText =
      .ok (ofForms [⟨"foo t1".toList, none, none, []⟩,
        ⟨"j label".toList, some ["auipc x6, PCH1".toList, "jalr x0, x6, PCL1".toList],
          some ["jal x0, LAB".toList], "Jump # far".toList⟩]) := by
  have writable : ∀ definition ∈ twoDefinitions, definition.IsWritable := by decide
  have written : Written twoDefinitions twoDefinitionsLines :=
    .ignored (.inr (.inl rfl)) (.definition (.cons _ 0 (.last _)) (.ignored (.inl rfl)
      (.ignored (.inl rfl) (.definition
        (.cons _ 1 (.cons _ 0 (.cons _ 0 (.cons _ 0 (.cons _ 0 (.last _)))))) .nil))))
  have made : Text.MadeOfLines twoDefinitionsLines twoDefinitionsText := by
    refine .cons ?_ ?_ ?_ (.consPair ?_ (.cons ?_ ?_ ?_ (.cons ?_ ?_ ?_ (.last ?_ ?_))))
    all_goals decide
  rcases written_table_is_read_back writable written made with ⟨read, forms⟩
  rw [read, List.map_congr_left forms]
  rfl

end Table

end PseudoAsm
