import PseudoAsm.Proofs.LabelRecovery
import PseudoAsm.Proofs.Listing.LabelDefinitions
import PseudoAsm.Proofs.Listing.Success
import PseudoAsm.Proofs.Operand
import PseudoAsm.Proofs.Statement.Readers
import PseudoAsm.Proofs.Table.Builtin
import PseudoAsm.Proofs.Template.Fill

/-!
# Jumps to the labels of a listing

What defines a label and what speaks of one are read in different ways: a name before a colon at the
start of a line, and an operand that is no delimiter, no register and no numeral. A name is always a
single operand, and it is no numeral. So it can be jumped to wherever it is defined in the listing,
with one exception: nothing keeps a line from defining the name of a register, and as an operand
this is the register, so that the jump is passed through.
-/

namespace PseudoAsm

open Statement (isOperand_of_isPlain)

namespace Label

variable {name : Text} {c : Char}

theorem digit?_eq_none_of_isStart (start : isStart c = true) : Digits.digit? 10 c = none := by
  have notDigit : ¬ ('0' ≤ c ∧ c ≤ '9') := by
    intro digit
    simp only [isStart, Bool.or_eq_true, beq_iff_eq] at start
    rcases start with ((letter | rfl) | rfl) | rfl
    · have toNine : c.toNat ≤ 57 := digit.2
      delta Char.isAlpha Char.isUpper Char.isLower at letter
      simp only [Bool.or_eq_true, Bool.and_eq_true, decide_eq_true_eq, ge_iff_le,
        UInt32.le_iff_toNat_le] at letter
      change (65 ≤ c.toNat ∧ c.toNat ≤ 90) ∨ (97 ≤ c.toNat ∧ c.toNat ≤ 122) at letter
      omega
    all_goals exact absurd digit (by decide)
  unfold Digits.digit? Digits.value?
  rw [if_neg notDigit]
  split
  · simp
  · split
    · simp
    · rfl

/-- No name is a numeral. -/
theorem word?_eq_none_of_isName (isName : Label.isName name = true) :
    Numeral.word? name = none := by
  cases name with
  | nil => cases isName
  | cons c rest =>
      simp only [Label.isName, Bool.and_eq_true] at isName
      have plain := isPlainCharacter_of_isStart isName.1
      have notSign : c ≠ '-' ∧ c ≠ '+' := by
        refine ⟨?_, ?_⟩
        all_goals
          rintro rfl
          exact absurd isName.1 (by decide)
      exact Numeral.word?_cons_eq_none (Text.isBlank_eq_false_of_isPlainCharacter plain) notSign.1
        notSign.2 (digit?_eq_none_of_isStart isName.1) rest

/-- The name of a label is a label as an operand, unless it is the name of a register. -/
theorem shape_of_isName (isName : Label.isName name = true) :
    Operand.shape name = if Operand.isRegisterName name then .register else .label := by
  have plain := isPlain_of_isName isName
  have notDelimiter : Operand.isDelimiter name = false := by
    rw [Bool.eq_false_iff]
    intro delimiter
    simp only [Operand.isDelimiter, Bool.or_eq_true, beq_iff_eq] at delimiter
    rcases delimiter with rfl | rfl
    all_goals exact absurd isName (by decide)
  have noLineFeed : Operand.dropLineFeed name = name := by
    rcases Operand.eq_or_eq_append_dropLineFeed name with same | fed
    · exact same.symm
    · have lineFeed : '\n' ∈ name := by
        rw [fed]
        simp
      exact absurd lineFeed (plain.not_mem (by decide))
  rw [Operand.shape, notDelimiter, Operand.isRegister, noLineFeed, word?_eq_none_of_isName isName]
  rfl

end Label

namespace Listing

open Table (builtin)

/-- The line with a jump to a label. -/
def jumpTo (name : Text) : Text :=
  "j ".toList ++ name

/-- The form of a jump in the built-in table. -/
def jumpForm : Form :=
  Table.plainForm "j label" ["jal x0, LAB"] "Jump to label"

variable {expander : Expander} {wanted : Option Variant} {name : Text}

section Jump

variable (isName : Label.isName name = true)

include isName

theorem not_mem_jumpTo {c : Char} (notInFront : c ∉ "j ".toList)
    (sign : Text.isPlainCharacter c = false) : c ∉ jumpTo name := by
  intro member
  rcases List.mem_append.1 member with inFront | inName
  · exact notInFront inFront
  · exact (Label.isPlain_of_isName isName).not_mem sign inName

/-- A name is a single operand. -/
theorem tokenize_jumpTo : Statement.tokenize (jumpTo name) = ["j".toList, name] := by
  have noComment : '#' ∉ jumpTo name := not_mem_jumpTo isName (by decide) (by decide)
  have isWord : Text.IsWord "j".toList := ⟨by decide, by decide⟩
  have operands : Statement.splitOperands name = [name] :=
    Statement.splitOperands_of_isOperand (isOperand_of_isPlain (Label.isPlain_of_isName isName))
  rw [← operands]
  exact Statement.tokenize_append_blank isWord noComment

theorem split_jumpTo : Label.split (jumpTo name) = ([], jumpTo name) :=
  Label.split_of_not_mem (not_mem_jumpTo isName (by decide) (by decide))

@[simp]
theorem codeOf_jumpTo : codeOf (jumpTo name) = jumpTo name := by
  rw [codeOf, split_jumpTo isName]

theorem read?_jumpTo : Statement.read? (jumpTo name) = some ⟨"j".toList, [name]⟩ := by
  rw [Statement.read?, tokenize_jumpTo isName, Statement.ofWords?]

@[simp]
theorem source_jumpTo : Statement.source (jumpTo name) = jumpTo name := by
  have noComment : '#' ∉ jumpTo name := not_mem_jumpTo isName (by decide) (by decide)
  have words : Text.words (jumpTo name) = ["j".toList, name] := by
    change Text.words ("j".toList ++ ' ' :: name) = _
    rw [Text.words_append_blank _ _ (by decide),
      Text.words_of_isWord (Label.isPlain_of_isName isName).isWord]
    rfl
  rw [Statement.source, Statement.code_eq_self noComment, words, Text.join_cons_cons,
    Text.join_singleton]
  rfl

end Jump

/-- There is one form of the jump. -/
theorem formsOf_jump : builtin.formsOf "j".toList = [jumpForm] := by
  have lowercase : Text.lowercase "j".toList = "j".toList := by decide +kernel
  rw [Table.formsOf_builtin, lowercase]
  rfl

/-- The table has one form of jump, and this takes a label or a numeral. -/
theorem accepts_jump_iff :
    jumpForm.accepts [name] = true ↔
      Operand.shape name = .label ∨ ∃ value, Operand.shape name = .immediate value := by
  have samples : jumpForm.operands = ["label".toList] := by decide +kernel
  have label : Operand.shape "label".toList = .label := by decide +kernel
  rw [Form.accepts_iff_forall₂, samples]
  simp only [List.forall₂_cons, List.forall₂_nil_left_iff, and_true,
    Operand.accepts_iff_of_label label]

theorem select_jump_of_label (label : Operand.shape name = .label) :
    builtin.select ⟨"j".toList, [name]⟩ = .ok jumpForm := by
  rw [Table.select_eq_ok_iff, formsOf_jump]
  exact List.find?_cons_of_pos (accepts_jump_iff.2 (.inl label))

theorem exists_select_jump_of_register (register : Operand.shape name = .register) :
    ∃ error, builtin.select ⟨"j".toList, [name]⟩ = .error error := by
  refine ⟨_, Table.select_eq_error_of_forall_accepts_eq_false ?_ ?_⟩
  · rw [formsOf_jump]
    exact List.cons_ne_nil _ _
  · intro form member
    rw [formsOf_jump, List.mem_singleton] at member
    subst member
    rw [Bool.eq_false_iff, ne_eq, accepts_jump_iff, register]
    simp

/-- A jump to a label that is defined can be expanded. -/
theorem expandable_jumpTo {known : List Text} (table : expander.table = builtin)
    (isName : Label.isName name = true) (inKnown : name ∈ known) :
    Expandable expander wanted known (jumpTo name) := by
  intro statement read form selected
  rw [codeOf_jumpTo isName, read?_jumpTo isName, Option.some.injEq] at read
  subst read
  rw [table, Table.select_eq_ok_iff, formsOf_jump] at selected
  have isJump : form = jumpForm := by
    simpa using List.mem_of_find?_eq_some selected
  subst isJump
  refine ⟨?_, ?_⟩
  · rw [Expander.recipe?_variant_of_compact_eq_none rfl]
    exact Option.some_ne_none _
  · intro operand member _
    rw [List.mem_singleton.1 member]
    exact inKnown

/-- A jump to a label of the listing can be put anywhere in the listing. -/
theorem exists_ofLines_jumpTo_iff {outer : Scope} {start : Option Int} {before after : List Text}
    (table : expander.table = builtin) (defined : name ∈ definedLabels (before ++ after)) :
    (∃ items, (ofLines expander wanted outer start
      (before ++ jumpTo name :: after)).result = .ok items) ↔
      ∃ items, (ofLines expander wanted outer start (before ++ after)).result = .ok items := by
  rcases List.mem_flatMap.1 defined with ⟨line, _, inLine⟩
  have isName := Label.isName_of_mem_split_fst inLine
  have labels : definedLabels (before ++ jumpTo name :: after) =
      definedLabels (before ++ after) := by
    simp [definedLabels, split_jumpTo isName]
  have jump : Expandable expander wanted (definedLabels (before ++ after) ++ outer.names)
      (jumpTo name) :=
    expandable_jumpTo table isName (List.mem_append_left _ defined)
  -- The jump defines nothing, so the same names are known to all other lines.
  rw [exists_ofLines_iff, exists_ofLines_iff, labels]
  simp only [List.mem_append, List.mem_cons]
  constructor
  · rintro ⟨nodup, each⟩
    exact ⟨nodup, fun line member => each line (member.imp_right .inr)⟩
  · rintro ⟨nodup, each⟩
    refine ⟨nodup, ?_⟩
    rintro line (inBefore | rfl | inAfter)
    · exact each line (.inl inBefore)
    · exact jump
    · exact each line (.inr inAfter)

/-- The item of a jump to a label: one instruction, with a label at the same address. -/
structure IsJumpTo (scope : Scope) (name : Text) (item : Item) : Prop where
  isPseudo : item.isPseudo = true
  instruction : ∃ label address, item.expansion.statements = ["jal x0, ".toList ++ label] ∧
    scope.address? label = some address ∧ scope.address? name = some address

/-- The jump shows a label at the address of its target. -/
theorem isJumpTo_of_expandForm {inner : SymbolTable} {outer : Scope} {item : Item}
    (table : expander.table = builtin) (isDefined : name ∈ inner.names)
    (label : Operand.shape name = .label) (pseudo : item.isPseudo = true)
    (expanded : expander.expandForm wanted (inner :: outer) item.address jumpForm
      ⟨"j".toList, [name]⟩ = .ok item.expansion) :
    IsJumpTo (inner :: outer) name item := by
  have selected : expander.table.select ⟨"j".toList, [name]⟩ = .ok jumpForm := by
    rw [table]
    exact select_jump_of_label label
  have last : [name].getLast? = some name := rfl
  rcases exists_branchExpanded selected expanded last label with ⟨address, shown, branch, sound⟩
  rcases branch.lines with ⟨form, recipe, words, isSelected, found, _, statements, fills⟩
  rw [selected, Except.ok.injEq] at isSelected
  subst isSelected
  have isRecipe : ["jal x0, LAB".toList] = recipe := by
    rw [Expander.recipe?_variant_of_compact_eq_none rfl] at found
    exact Option.some.inj found
  have reads : Template.ofText "jal x0, LAB".toList =
      [.literal "jal x0, ".toList] ++ [.marker .label] := by
    decide +kernel
  have notHidden := Scope.not_hides_of_mem_names isDefined branch.address_target
  refine ⟨pseudo, shown, address, ?_, sound.2 (notHidden shown), branch.address_target⟩
  rw [statements, ← isRecipe, Form.filledLines, List.map_singleton, reads,
    fills _ _ (by decide)]
  simp [Template.fillingsAfter]

theorem exists_item_jumpTo {inner : SymbolTable} {outer : Scope} {contribution : Option Item}
    (table : expander.table = builtin) (isName : Label.isName name = true)
    (isDefined : name ∈ inner.names)
    (lineItem : LineItem expander wanted (inner :: outer) (jumpTo name) contribution) :
    ∃ item, contribution = some item ∧ item.source = jumpTo name ∧
      (Operand.isRegisterName name = false → IsJumpTo (inner :: outer) name item) ∧
      (Operand.isRegisterName name = true →
        item.isPseudo = false ∧ item.expansion.statements = [jumpTo name]) := by
  have shape := Label.shape_of_isName isName
  have source : Statement.source (codeOf (jumpTo name)) = jumpTo name := by
    rw [codeOf_jumpTo isName, source_jumpTo isName]
  have reads : Statement.read? (codeOf (jumpTo name)) = some ⟨"j".toList, [name]⟩ := by
    rw [codeOf_jumpTo isName, read?_jumpTo isName]
  cases lineItem with
  | blank unread =>
      rw [reads] at unread
      cases unread
  | @basic statement error address read refused =>
      rw [reads, Option.some.injEq] at read
      subst read
      rw [table] at refused
      refine ⟨_, rfl, source, ?_, ?_⟩
      · intro noRegister
        rw [noRegister] at shape
        rw [select_jump_of_label shape] at refused
        cases refused
      · intro _
        exact ⟨rfl, by rw [source]⟩
  | @pseudo statement form expansion address read selected expanded =>
      rw [reads, Option.some.injEq] at read
      subst read
      rw [table] at selected
      refine ⟨_, rfl, source, ?_, ?_⟩
      · intro noRegister
        rw [noRegister] at shape
        rw [select_jump_of_label shape, Except.ok.injEq] at selected
        subst selected
        exact isJumpTo_of_expandForm table isDefined shape rfl expanded
      · intro register
        rw [register] at shape
        rcases exists_select_jump_of_register shape with ⟨error, refused⟩
        rw [selected] at refused
        cases refused

/-- A name that a line defines is one operand, and unless it names a register it is a label that the
listing can jump to, before its definition and after it. -/
theorem label_definition_can_be_used {line : Text} (defined : name ∈ (Label.split line).1) :
    Statement.tokenize (jumpTo name) = ["j".toList, name] ∧
    Operand.shape name = (if Operand.isRegisterName name then .register else .label) ∧
    ∀ (expander : Expander) (wanted : Option Variant) (outer : Scope) (start : Option Int)
      (before after : List Text), expander.table = builtin → line ∈ before ++ after →
      ((∃ items, (ofLines expander wanted outer start
          (before ++ jumpTo name :: after)).result = .ok items) ↔
        ∃ items, (ofLines expander wanted outer start (before ++ after)).result = .ok items) ∧
      ∀ items, (ofLines expander wanted outer start
          (before ++ jumpTo name :: after)).result = .ok items →
        ∃ (inner : SymbolTable) (contributions : List (Option Item)) (item : Item),
          List.Forall₂ (LineItem expander wanted (inner :: outer))
            (before ++ jumpTo name :: after) contributions ∧
          items = contributions.reduceOption ∧
          (∀ index : Nat, (before ++ jumpTo name :: after)[index]? = some line →
            Scope.address? (inner :: outer) name = some (Word.ofInt
              (start.getD expander.textBase + size (contributions.take index).reduceOption))) ∧
          contributions[before.length]? = some (some item) ∧ item.source = jumpTo name ∧
          (Operand.isRegisterName name = false → IsJumpTo (inner :: outer) name item) ∧
          (Operand.isRegisterName name = true →
            item.isPseudo = false ∧ item.expansion.statements = [jumpTo name]) := by
  have isName := Label.isName_of_mem_split_fst defined
  refine ⟨tokenize_jumpTo isName, Label.shape_of_isName isName, ?_⟩
  intro expander wanted outer start before after table member
  have definedLabel : name ∈ definedLabels (before ++ after) :=
    List.mem_flatMap.2 ⟨line, member, defined⟩
  refine ⟨exists_ofLines_jumpTo_iff table definedLabel, ?_⟩
  intro items success
  rcases exists_linesExpanded_of_ofLines_eq_ok success with
    ⟨inner, contributions, labelsOk, expanded, itemsEq⟩
  have isDefined : name ∈ inner.names := by
    rw [names_of_labels_eq_ok labelsOk]
    refine List.mem_flatMap.2 ⟨line, ?_, defined⟩
    rw [List.mem_append, List.mem_cons]
    exact (List.mem_append.1 member).imp_right .inr
  have atJump : (before ++ jumpTo name :: after)[before.length]? = some (jumpTo name) := by
    simp
  rcases exists_getElem?_of_forall₂ expanded.lineItems atJump with
    ⟨contribution, atIndex, lineItem⟩
  rcases exists_item_jumpTo table isName isDefined lineItem with
    ⟨item, rfl, source, ofLabel, ofRegister⟩
  refine ⟨inner, contributions, item, expanded.lineItems, itemsEq, ?_, atIndex, source, ofLabel,
    ofRegister⟩
  intro index atLine
  exact Scope.address?_cons_of_find?_eq_some
    (find?_label_of_linesExpanded expanded labelsOk atLine defined)

theorem label_definition_can_be_used_loop :
    ∃ (items : List Item) (inner : SymbolTable) (contributions : List (Option Item)) (item : Item),
      (ofLines ⟨builtin, .standard, 0x400000⟩ none [] none
        [jumpTo "loop".toList, "loop: addi t0, t0, -1".toList]).result = .ok items ∧
      items = contributions.reduceOption ∧ contributions[0]? = some (some item) ∧
      IsJumpTo [inner] "loop".toList item ∧
      Scope.address? [inner] "loop".toList =
        some (Word.ofInt (0x400000 + size (contributions.take 1).reduceOption)) := by
  have defined : "loop".toList ∈ (Label.split "loop: addi t0, t0, -1".toList).1 := by decide
  have kinds : (ofLines ⟨builtin, .standard, 0x400000⟩ none [] none
      ["loop: addi t0, t0, -1".toList]).result.map (List.map Item.isPseudo) = .ok [false] := rfl
  rcases Outcome.map_eq_ok_iff.1 kinds with ⟨without, otherwise, _⟩
  rcases label_definition_can_be_used defined with ⟨_, _, inListing⟩
  rcases inListing ⟨builtin, .standard, 0x400000⟩ none [] none [] ["loop: addi t0, t0, -1".toList]
    rfl (by simp) with ⟨expands, jump⟩
  rcases expands.2 ⟨without, otherwise⟩ with ⟨items, success⟩
  rcases jump items success with
    ⟨inner, contributions, item, _, itemsEq, address, atJump, _, ofLabel, _⟩
  exact ⟨items, inner, contributions, item, success, itemsEq, atJump, ofLabel (by decide),
    address 1 rfl⟩

/-- A label with the name of a register, and what looks like a jump to it. -/
def registerLabel : Listing :=
  ofLines ⟨builtin, .standard, 0x400000⟩ none [] none ["ra:".toList, "j ra".toList]

theorem registerLabel_is_passed_through :
    (Label.split "ra:".toList).1 = ["ra".toList] ∧ Operand.shape "ra".toList ≠ .label ∧
      registerLabel.result.map (List.map fun item => (item.isPseudo, item.expansion.statements)) =
        .ok [(false, ["j ra".toList])] := by
  refine ⟨by decide, by decide, rfl⟩

end Listing

end PseudoAsm
