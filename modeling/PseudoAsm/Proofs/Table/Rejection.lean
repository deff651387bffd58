import Mathlib.Data.List.TakeWhile
import PseudoAsm.Proofs.Outcome
import PseudoAsm.Proofs.Table.Format

/-!
# Tables that are not read

A line of a table that says something either gives a form or is faulty: it starts with a tab, or two
of its fields stand before compact templates. What is written behind a description does not count,
nor how many tabs part the fields. A table is read as a whole unless a line is faulty, and then the
first such line is reported, under the number that it has among all lines.
-/

namespace PseudoAsm.Table

section Split

variable {α : Type} {cuts : α → Bool}

/-- A list is cut at the first place where it may be cut, and then what is left. -/
theorem splitOnP_cases (cuts : α → Bool) (items : List α) :
    ((∀ item ∈ items, cuts item = false) ∧ items.splitOnP cuts = [items]) ∨
      ∃ before item after, items = before ++ item :: after ∧
        (∀ other ∈ before, cuts other = false) ∧ cuts item = true ∧
        items.splitOnP cuts = before :: after.splitOnP cuts := by
  by_cases cut : ∃ item ∈ items, cuts item = true
  · right
    rcases List.find?_isSome.2 cut |> Option.isSome_iff_exists.1 with ⟨item, found⟩
    rcases List.find?_eq_some_iff_append.1 found with ⟨cutsItem, before, after, rfl, earlier⟩
    have uncut : ∀ other ∈ before, cuts other = false := by simpa using earlier
    refine ⟨before, item, after, rfl, uncut, cutsItem, ?_⟩
    rw [List.splitOnP_append_cons _ _ cutsItem, List.splitOnP_eq_singleton uncut,
      List.singleton_append]
  · have uncut : ∀ item ∈ items, cuts item = false := by simpa using cut
    exact .inl ⟨uncut, List.splitOnP_eq_singleton uncut⟩

theorem eq_of_splitOnP_eq_singleton {items piece : List α}
    (single : items.splitOnP cuts = [piece]) :
    items = piece ∧ ∀ item ∈ items, cuts item = false := by
  rcases splitOnP_cases cuts items with ⟨uncut, whole⟩ | ⟨before, item, after, _, _, _, cut⟩
  · rw [single, List.cons.injEq] at whole
    exact ⟨whole.1.symm, uncut⟩
  · rw [single, List.cons.injEq] at cut
    exact absurd cut.2.symm (List.splitOnP_ne_nil _ _)

theorem length_splitOnP (cuts : α → Bool) (items : List α) :
    (items.splitOnP cuts).length = (items.filter cuts).length + 1 := by
  induction items with
  | nil => rfl
  | cons item items ih =>
      rw [List.splitOnP_cons_eq_if_modifyHead]
      by_cases cut : cuts item = true
      · rw [if_pos cut, List.length_cons, ih, List.filter_cons_of_pos cut, List.length_cons]
      · rw [if_neg cut, List.length_modifyHead, ih, List.filter_cons_of_neg cut]

end Split

/-- Whether a line says something. -/
def IsEntry (line : Text) : Prop :=
  line ≠ [] ∧ line.head? ≠ some '#' ∧ line.head? ≠ some ' '

instance (line : Text) : Decidable (IsEntry line) :=
  inferInstanceAs (Decidable (_ ∧ _))

/-- The fields that stand before compact templates: behind the usage and before the description. -/
def compactMarks (line : Text) : List Text :=
  ((fields line).tail.takeWhile (·.head? ≠ some '#')).filter (compactMark <+: ·)

/-- Whether a line says something but gives no form. -/
def IsFaulty (line : Text) : Prop :=
  IsEntry line ∧ (line.head? = some '\t' ∨ 2 ≤ (compactMarks line).length)

/-- What is wrong with a line, and the column that is reported. -/
inductive LineFault (line : Text) : FormatFault → Int → Prop
  | noUsage (tab : line.head? = some '\t') : LineFault line .noUsage 1
  | secondCompact {usage : Text} {rest : List Text} (noTab : line.head? ≠ some '\t')
      (isUsage : fields line = usage :: rest) (marks : 2 ≤ (compactMarks line).length) :
      LineFault line (.secondCompact usage) (compactColumn line)

/-- Whether a field is a template wherever it stands before the description. -/
def IsTemplate (field : Text) : Prop :=
  isDescription field = false ∧ isCompactMark field = false

/-- A description and the fields that start with it; there may be none. -/
inductive Describes : Text → List Text → Prop
  | nothing : Describes [] []
  | description (text : Text) (ignored : List Text) : Describes text (('#' :: text) :: ignored)

/-- Fields and the form that they give. -/
inductive Gives : List Text → Form → Prop
  | standard {usage description : Text} {templates rest : List Text}
      (each : ∀ template ∈ templates, IsTemplate template)
      (described : Describes description rest) :
      Gives (usage :: (templates ++ rest))
        ⟨usage, Recipe.ofLines? templates, none, description⟩
  | compact {usage mark description : Text} {standard compact rest : List Text}
      (each : ∀ template ∈ standard ++ compact, IsTemplate template)
      (isMark : isCompactMark mark = true) (described : Describes description rest) :
      Gives (usage :: (standard ++ mark :: (compact ++ rest)))
        ⟨usage, Recipe.ofLines? standard, Recipe.ofLines? compact, description⟩

variable {file line : Text}

@[simp]
theorem isIgnored_eq_false_iff : isIgnored line = false ↔ IsEntry line := by
  rw [Bool.eq_false_iff, ne_eq, isIgnored_iff, not_or, not_or, IsEntry]

theorem compactMarks_eq {usage : Text} {rest : List Text} (isUsage : fields line = usage :: rest) :
    compactMarks line = (rest.takeWhile (!isDescription ·)).filter isCompactMark := by
  have ends : ∀ field : Text, decide (field.head? ≠ some '#') = !isDescription field := by
    intro field
    rw [Bool.eq_iff_iff, decide_eq_true_iff, Bool.not_eq_true', Bool.eq_false_iff, ne_eq, ne_eq,
      isDescription_iff]
  have marks : ∀ field : Text, decide (compactMark <+: field) = isCompactMark field := by
    intro field
    rw [Bool.eq_iff_iff, decide_eq_true_iff, isCompactMark, List.isPrefixOf_iff_prefix]
  rw [compactMarks, isUsage, List.tail_cons, funext ends, funext marks]

/-- A line that neither is empty nor starts with a tab has a usage. -/
theorem fields_ne_nil (nonempty : line ≠ []) (noTab : line.head? ≠ some '\t') :
    fields line ≠ [] := by
  rcases List.exists_cons_of_ne_nil nonempty with ⟨c, rest, rfl⟩
  have noCut : ¬ (c == '\t') = true := by simpa using noTab
  rcases List.exists_cons_of_ne_nil (List.splitOnP_ne_nil (· == '\t') rest) with
    ⟨first, later, pieces⟩
  rw [fields, List.splitOn_eq_splitOnP, List.splitOnP_cons_eq_if_modifyHead, if_neg noCut, pieces,
    List.modifyHead_cons, List.filter_cons_of_pos rfl]
  exact List.cons_ne_nil _ _

theorem describes_descriptionOf (rest : List Text) :
    Describes (descriptionOf rest) (rest.dropWhile (!isDescription ·)) := by
  unfold descriptionOf
  cases after : rest.dropWhile (!isDescription ·) with
  | nil => exact .nothing
  | cons field ignored =>
      have starts : isDescription field = true := by
        simpa [after] using List.head?_dropWhile_not (!isDescription ·) rest
      rw [isDescription_iff, List.head?_eq_some_iff] at starts
      rcases starts with ⟨text, rfl⟩
      exact .description text ignored

/-- A line that starts with a tab is faulty at its first column. -/
theorem readLine_of_tab (tab : line.head? = some '\t') (file : Text) (number : Nat) :
    readLine file (line, number) = .error ⟨.noUsage, ⟨file, number, 1⟩, line⟩ := by
  have starts : Text.starts "\t" line = true := isPrefixOf_singleton_iff.2 tab
  simp only [readLine, starts, if_true]

/-- A line with a third section is faulty at its last mark. -/
theorem readLine_of_sections {usage : Text} {rest : List Text} {standard compact third : Recipe}
    {later : List Recipe} (noTab : line.head? ≠ some '\t') (isUsage : fields line = usage :: rest)
    (sectionsEq : sections rest = standard :: compact :: third :: later) (file : Text)
    (number : Nat) :
    readLine file (line, number) =
      .error ⟨.secondCompact usage, ⟨file, number, compactColumn line⟩, line⟩ := by
  have notTab : Text.starts "\t" line = false := by
    rw [Bool.eq_false_iff]
    exact mt isPrefixOf_singleton_iff.1 noTab
  simp only [readLine, notTab, isUsage, sectionsEq, Bool.false_eq_true, if_false]

/-- The fields of a line with one section, or with two, give the form that is read. -/
theorem gives_of_sections {rest : List Text} {standard : Recipe} {compact : Option Recipe}
    (sectionsEq : sections rest = standard :: compact.toList) (usage : Text) :
    Gives (usage :: rest)
      ⟨usage, Recipe.ofLines? standard, compact.bind Recipe.ofLines?, descriptionOf rest⟩ := by
  have described := describes_descriptionOf rest
  have noDescription :
      ∀ field ∈ rest.takeWhile (!isDescription ·), isDescription field = false := by
    intro field member
    simpa using List.mem_takeWhile_imp member
  have parts : rest = rest.takeWhile (!isDescription ·) ++ rest.dropWhile (!isDescription ·) :=
    List.takeWhile_append_dropWhile.symm
  rw [sections] at sectionsEq
  generalize descriptionOf rest = description at described ⊢
  generalize rest.takeWhile (!isDescription ·) = front at sectionsEq noDescription parts
  generalize rest.dropWhile (!isDescription ·) = back at described parts
  subst parts
  cases compact with
  | none =>
      rcases eq_of_splitOnP_eq_singleton sectionsEq with ⟨rfl, unmarked⟩
      exact .standard (fun field member => ⟨noDescription field member, unmarked field member⟩)
        described
  | some compact =>
      rcases splitOnP_cases isCompactMark front with
        ⟨_, whole⟩ | ⟨before, mark, after, rfl, unmarked, isMark, cut⟩
      · cases sectionsEq.symm.trans whole
      · rw [cut, List.cons.injEq] at sectionsEq
        rcases sectionsEq with ⟨rfl, second⟩
        rcases eq_of_splitOnP_eq_singleton second with ⟨rfl, unmarkedAfter⟩
        rw [List.append_assoc, List.cons_append]
        refine .compact (fun field member => ?_) isMark described
        refine ⟨noDescription field ?_, ?_⟩
        · rw [List.mem_append, List.mem_cons]
          exact (List.mem_append.1 member).imp_right .inr
        · exact (List.mem_append.1 member).elim (unmarked field) (unmarkedAfter field)

theorem not_isFaulty_of_length_lt (noTab : line.head? ≠ some '\t')
    (few : (compactMarks line).length < 2) : ¬ IsFaulty line := by
  rintro ⟨_, tab | marks⟩
  · exact noTab tab
  · exact absurd marks (Nat.not_le.2 few)

/-- A line that says something has a fault, which is reported, or gives a form, which is read. -/
theorem readLine_cases (entry : IsEntry line) (file : Text) (number : Nat) :
    (∃ fault column, LineFault line fault column ∧
      readLine file (line, number) = .error ⟨fault, ⟨file, number, column⟩, line⟩) ∨
    ∃ form, ¬ IsFaulty line ∧ Gives (fields line) form ∧
      readLine file (line, number) = .ok form := by
  by_cases tab : line.head? = some '\t'
  · exact .inl ⟨_, _, .noUsage tab, readLine_of_tab tab file number⟩
  rcases List.exists_cons_of_ne_nil (fields_ne_nil entry.1 tab) with ⟨usage, rest, isUsage⟩
  have count : (sections rest).length = (compactMarks line).length + 1 := by
    rw [compactMarks_eq isUsage, sections, length_splitOnP]
  have read : ∀ {standard : Recipe} (compact : Option Recipe),
      sections rest = standard :: compact.toList → (compactMarks line).length < 2 →
      ∃ form, ¬ IsFaulty line ∧ Gives (fields line) form ∧
        readLine file (line, number) = .ok form := by
    intro standard compact sectionsEq few
    refine ⟨_, not_isFaulty_of_length_lt tab few, ?_, readLine_eq_ok tab isUsage sectionsEq⟩
    rw [isUsage]
    exact gives_of_sections sectionsEq usage
  rcases sectionsEq : sections rest with _ | ⟨standard, _ | ⟨compact, _ | ⟨third, later⟩⟩⟩
  all_goals rw [sectionsEq] at count
  · cases count
  · refine .inr (read none sectionsEq ?_)
    rw [List.length_singleton] at count
    omega
  · refine .inr (read (some compact) sectionsEq ?_)
    rw [List.length_cons, List.length_singleton] at count
    omega
  · refine .inl ⟨_, _, .secondCompact tab isUsage ?_,
      readLine_of_sections tab isUsage sectionsEq file number⟩
    simp only [List.length_cons] at count
    omega

/-- A line and its number, if it is the first faulty one; the first line has the number 1. -/
def FirstFaulty (lines : List Text) (number : Nat) (line : Text) : Prop :=
  ∃ before after, lines = before ++ line :: after ∧ number = before.length + 1 ∧
    (∀ other ∈ before, ¬ IsFaulty other) ∧ IsFaulty line

theorem LineFault.isFaulty {fault : FormatFault} {column : Int} (entry : IsEntry line)
    (lineFault : LineFault line fault column) : IsFaulty line := by
  cases lineFault with
  | noUsage tab => exact ⟨entry, .inl tab⟩
  | secondCompact noTab isUsage marks => exact ⟨entry, .inr marks⟩

/-- Where there is a first faulty line, there is a faulty line. -/
theorem FirstFaulty.exists_mem {lines : List Text} {number : Nat}
    (first : FirstFaulty lines number line) : ∃ other ∈ lines, IsFaulty other := by
  rcases first with ⟨before, after, rfl, _, _, faulty⟩
  exact ⟨line, List.mem_append_right _ List.mem_cons_self, faulty⟩

/-- Whether an error is about the first faulty one of lines that are numbered from `start + 1` on,
and tells its place. -/
def Reports (file : Text) (start : Nat) (lines : List Text) (error : FormatError) : Prop :=
  ∃ number : Nat, FirstFaulty lines number error.sourceLine ∧
    LineFault error.sourceLine error.fault error.location.column ∧
    error.location.file = file ∧ error.location.line = (start + number : Nat)

theorem Reports.cons {start : Nat} {lines : List Text} {error : FormatError} {first : Text}
    (sound : ¬ IsFaulty first) (later : Reports file (start + 1) lines error) :
    Reports file start (first :: lines) error := by
  rcases later with ⟨number, ⟨before, after, rfl, rfl, earlier, faulty⟩, lineFault, isFile, place⟩
  refine ⟨before.length + 2, ?_, lineFault, isFile, ?_⟩
  · exact ⟨first :: before, after, rfl, rfl, List.forall_mem_cons.2 ⟨sound, earlier⟩, faulty⟩
  · rw [place]
    congr 1
    omega

/-- Reading lines that are numbered from `start + 1` on stops at the first faulty one, and gives one
form for each line that says something if there is none. -/
theorem mapM_readLine_cases (file : Text) (start : Nat) (lines : List Text) :
    (∃ error, Reports file start lines error ∧
      ((lines.zipIdx (start + 1)).filter (!isIgnored ·.1)).mapM (readLine file) = .error error) ∨
    ∃ forms, (∀ line ∈ lines, ¬ IsFaulty line) ∧
      List.Forall₂ (fun line form => Gives (fields line) form) (lines.filter (IsEntry ·)) forms ∧
      ((lines.zipIdx (start + 1)).filter (!isIgnored ·.1)).mapM (readLine file) = .ok forms := by
  -- The lines behind the first one are numbered from further on, so the start is left open.
  induction lines generalizing start with
  | nil => exact .inr ⟨[], by simp, .nil, rfl⟩
  | cons line lines ih =>
      rw [List.zipIdx_cons]
      by_cases entry : IsEntry line
      · rw [List.filter_cons_of_pos (by simp [entry]), List.mapM_cons,
          List.filter_cons_of_pos (p := fun line => decide (IsEntry line)) (decide_eq_true entry)]
        rcases readLine_cases entry file (start + 1) with
          ⟨fault, column, lineFault, failed⟩ | ⟨form, sound, gives, read⟩
        · have faulty := lineFault.isFaulty entry
          rw [failed]
          exact .inl ⟨_, ⟨1, ⟨[], lines, rfl, rfl, by simp, faulty⟩, lineFault, rfl, rfl⟩, rfl⟩
        · rw [read]
          rcases ih (start + 1) with ⟨error, reports, failed⟩ | ⟨forms, allSound, each, readAll⟩
          · rw [failed]
            exact .inl ⟨error, reports.cons sound, rfl⟩
          · rw [readAll]
            exact .inr ⟨form :: forms, List.forall_mem_cons.2 ⟨sound, allSound⟩,
              .cons gives each, rfl⟩
      · have ignored : isIgnored line = true := by
          rwa [← isIgnored_eq_false_iff, Bool.not_eq_false] at entry
        have sound : ¬ IsFaulty line := fun faulty => entry faulty.1
        rw [List.filter_cons_of_neg (by simp [ignored]),
          List.filter_cons_of_neg (p := fun line => decide (IsEntry line)) (by simp [entry])]
        rcases ih (start + 1) with ⟨error, reports, failed⟩ | ⟨forms, allSound, each, readAll⟩
        · exact .inl ⟨error, reports.cons sound, failed⟩
        · exact .inr ⟨forms, List.forall_mem_cons.2 ⟨sound, allSound⟩, each, readAll⟩

/-- A table is either stopped at its first faulty line or read as a whole. -/
theorem ofText_cases (file text : Text) :
    (∃ error, Reports file 0 (Text.lines text) error ∧ ofText file text = .error error) ∨
    ∃ table, (∀ line ∈ Text.lines text, ¬ IsFaulty line) ∧
      List.Forall₂ (fun line form => Gives (fields line) form)
        ((Text.lines text).filter (IsEntry ·)) table.forms ∧
      ofText file text = .ok table := by
  rw [ofText, readForms, Progress.result_run, numberedLines]
  rcases mapM_readLine_cases file 0 (Text.lines text) with
    ⟨error, reports, failed⟩ | ⟨forms, sound, each, read⟩
  · rw [Nat.zero_add] at failed
    rw [failed]
    exact .inl ⟨error, reports, rfl⟩
  · rw [Nat.zero_add] at read
    rw [read]
    exact .inr ⟨ofForms forms, sound, each, rfl⟩

/-- A table is refused because of its first faulty line. -/
theorem exists_of_ofText_eq_error {text : Text} {error : FormatError}
    (failed : ofText file text = .error error) :
    ∃ number : Nat, FirstFaulty (Text.lines text) number error.sourceLine ∧
      LineFault error.sourceLine error.fault error.location.column ∧
      error.location.file = file ∧ error.location.line = number := by
  rcases ofText_cases file text with ⟨other, reports, stopped⟩ | ⟨table, _, _, read⟩
  · rw [failed, Except.error.injEq] at stopped
    subst stopped
    simpa only [Reports, Nat.zero_add] using reports
  · cases failed.symm.trans read

/-- A table is refused exactly if one of its lines is faulty, with the place of the first such line;
otherwise each line that says something gives one form, in the order of the lines. -/
theorem refused_at_first_faulty_line (file text : Text) :
    ((∃ error, ofText file text = .error error) ↔ ∃ line ∈ Text.lines text, IsFaulty line) ∧
    (∀ error, ofText file text = .error error → ∃ number : Nat,
      FirstFaulty (Text.lines text) number error.sourceLine ∧
      LineFault error.sourceLine error.fault error.location.column ∧
      error.location.file = file ∧ error.location.line = number) ∧
    ((∀ line ∈ Text.lines text, ¬ IsFaulty line) → ∃ table, ofText file text = .ok table ∧
      List.Forall₂ (fun line form => Gives (fields line) form)
        ((Text.lines text).filter (IsEntry ·)) table.forms) := by
  refine ⟨?_, fun error => exists_of_ofText_eq_error, ?_⟩
  · rcases ofText_cases file text with ⟨error, ⟨_, first, _⟩, stopped⟩ | ⟨table, sound, _, read⟩
    · exact iff_of_true ⟨error, stopped⟩ first.exists_mem
    · refine iff_of_false ?_ ?_
      · rintro ⟨error, stopped⟩
        cases read.symm.trans stopped
      · rintro ⟨line, member, faulty⟩
        exact sound line member faulty
  · intro sound
    rcases ofText_cases file text with ⟨error, ⟨_, first, _⟩, stopped⟩ | ⟨table, _, each, read⟩
    · rcases first.exists_mem with ⟨line, member, faulty⟩
      exact absurd faulty (sound line member)
    · exact ⟨table, read, each⟩

/-- The comment counts as a line, so the tab is found on the third one. -/
example : ofText "ops.txt".toList "# forms\nnop\taddi x0, x0, 0\n\tret".toList =
    .error ⟨.noUsage, ⟨"ops.txt".toList, 3, 1⟩, "\tret".toList⟩ := by
  rfl

end PseudoAsm.Table
