import PseudoAsm.Proofs.PcRelative

/-!
# Loading an immediate

The load of an immediate is the only pseudo-instruction with two forms, and its value decides
between them: the form of one instruction takes what fits the low field, and the other form takes
the rest, since its own example does not fit. A load of one instruction carries the value as it is;
of two instructions, the first one carries the high field and the second one adds the low field.
Nothing but a numeral is loaded, for neither form has a label.
-/

namespace PseudoAsm

open Table (builtin builtinForms)

namespace Form

theorem accepts_register_immediate_iff {form : Form} {expected : Word} {register operand : Text}
    (shapes : form.operands.map Operand.shape = [.register, .immediate expected]) :
    form.accepts [register, operand] = true ↔
      Operand.shape register = .register ∧ ∃ value, Numeral.word? operand = some value ∧
        (Operand.fitsLowField expected.toInt = true → Operand.fitsLowField value.toInt = true) := by
  rcases List.map_eq_cons_iff.1 shapes with ⟨first, later, samples, isRegister, rest⟩
  rcases List.map_eq_singleton_iff.1 rest with ⟨second, rfl, isImmediate⟩
  rw [accepts_iff_forall₂, samples]
  simp only [List.forall₂_cons, List.forall₂_nil_left_iff, and_true,
    Operand.accepts_iff_of_register isRegister, Operand.accepts_iff_of_immediate isImmediate,
    Operand.shape_eq_immediate_iff]

end Form

theorem Statement.resolve_register_immediate {register operand : Text} {value : Word}
    (mnemonic : Text)
    (isRegister : Operand.shape register = .register)
    (spelt : Numeral.word? operand = some value) (scope : Scope) :
    resolve scope ⟨mnemonic, [register, operand]⟩ = .ok [mnemonic, register, operand] := by
  have notLabel : Operand.shape operand ≠ .label := by
    simp [Operand.shape_eq_immediate_iff.2 spelt]
  refine resolve_eq_ok_iff.2 ⟨[register, operand], rfl, ?_⟩
  exact .cons (resolveOperand_of_register isRegister)
    (.cons (resolveOperand_of_ne_label notLabel) .nil)

/-- What the two forms of a load say of their operands and of the lines that they stand for. -/
structure LoadForms (short long : Form) : Prop where
  shortReads : short.Reads "li" [.register, .immediate (-100)] ["addi RG1, x0, VL2"]
  longReads : long.Reads "li" [.register, .immediate 10000000]
    ["lui RG1, VH2", "addi RG1, RG1, VL2"]
  noCompact : short.compact = none ∧ long.compact = none
  usages : [short, long].map Form.usage = ["li t1,-100".toList, "li t1,10000000".toList]

theorem exists_loadForms : ∃ short long : Form, LoadForms short long ∧
    builtinForms.filter (fun form => form.mnemonic = "li".toList) = [short, long] := by
  refine ⟨_, _, ⟨?_, ?_, ?_, ?_⟩, rfl⟩
  · decide +kernel
  · decide +kernel
  · decide +kernel
  · decide +kernel

namespace LoadForms

variable {short long : Form} {mnemonic register operand : Text} {value : Word}

/-- The short form takes what fits the low field. -/
theorem accepts_short_iff (forms : LoadForms short long) :
    short.accepts [register, operand] = true ↔
      Operand.shape register = .register ∧ ∃ value, Numeral.word? operand = some value ∧
        -2048 ≤ value.toInt ∧ value.toInt ≤ 2047 := by
  have fits : Operand.fitsLowField (-100 : Word).toInt = true := by decide
  simp only [Form.accepts_register_immediate_iff forms.shortReads.2.1, fits, forall_const,
    Operand.fitsLowField_iff]

/-- The long form takes every number. -/
theorem accepts_long_iff (forms : LoadForms short long) :
    long.accepts [register, operand] = true ↔
      Operand.shape register = .register ∧ ∃ value, Numeral.word? operand = some value := by
  have tooLong : Operand.fitsLowField (10000000 : Word).toInt = false := by decide
  simp only [Form.accepts_register_immediate_iff forms.longReads.2.1, tooLong, Bool.false_eq_true,
    false_implies, and_true]

/-- The short form is selected as far as it goes. -/
theorem select_eq (forms : LoadForms short long)
    (formsOf : builtin.formsOf mnemonic = [short, long])
    (isRegister : Operand.shape register = .register)
    (spelt : Numeral.word? operand = some value) :
    builtin.select ⟨mnemonic, [register, operand]⟩ =
      .ok (if -2048 ≤ value.toInt ∧ value.toInt ≤ 2047 then short else long) := by
  have takesLong : long.accepts [register, operand] = true :=
    forms.accepts_long_iff.2 ⟨isRegister, value, spelt⟩
  rw [Table.select_eq_ok_iff, formsOf]
  split
  · next fits =>
      have takesShort : short.accepts [register, operand] = true :=
        forms.accepts_short_iff.2 ⟨isRegister, value, spelt, fits⟩
      exact List.find?_cons_of_pos takesShort
  · next tooLong =>
      have refusesShort : ¬ short.accepts [register, operand] = true := by
        intro accepted
        rcases forms.accepts_short_iff.1 accepted with ⟨_, other, otherSpelt, fits⟩
        rw [spelt, Option.some.injEq] at otherSpelt
        subst otherSpelt
        exact tooLong fits
      simp [refusesShort, takesLong]

/-- What is no number is refused by both forms. -/
theorem select_eq_error (forms : LoadForms short long)
    (formsOf : builtin.formsOf mnemonic = [short, long])
    (unspelt : Numeral.word? operand = none) :
    builtin.select ⟨mnemonic, [register, operand]⟩ = .error (.operandMismatch mnemonic
      [register, operand] ["li t1,-100".toList, "li t1,10000000".toList]) := by
  have refuses : ∀ form ∈ builtin.formsOf mnemonic, form.accepts [register, operand] = false := by
    intro form member
    rw [Bool.eq_false_iff]
    intro accepted
    have literal : ∃ value, Numeral.word? operand = some value := by
      rw [formsOf, List.mem_cons, List.mem_singleton] at member
      rcases member with rfl | rfl
      · rcases forms.accepts_short_iff.1 accepted with ⟨_, value, spelt, _⟩
        exact ⟨value, spelt⟩
      · exact (forms.accepts_long_iff.1 accepted).2
    rcases literal with ⟨value, spelt⟩
    rw [unspelt] at spelt
    cases spelt
  have known : builtin.formsOf mnemonic ≠ [] := by
    rw [formsOf]
    exact List.cons_ne_nil _ _
  rw [Table.select_eq_error_of_forall_accepts_eq_false known refuses, formsOf, forms.usages]

end LoadForms

section Lines

variable {site : Site} {scope : Scope} {pc : Int} {written register operand : Text} {value : Word}

theorem fill_constant {source : Source} {template : Text}
    (reads : Template.ofText template =
      [.literal "addi ".toList, .marker (.operand 1), .literal ", x0, ".toList,
        .marker (.part source .low 2)])
    (registerAt : site.words[1]? = some register) (operandAt : site.words[2]? = some operand)
    (spelt : Numeral.word? operand = some value) :
    (Template.ofText template).fill site =
      "addi ".toList ++ register ++ ", x0, ".toList ++
        Text.ofInt (source.split value site.pc).low := by
  simp [reads, Template.fill_cons_operand registerAt, Template.fill_cons_part operandAt spelt]

theorem filledLines_short (spelt : Numeral.word? operand = some value)
    (fits : -2048 ≤ value.toInt ∧ value.toInt ≤ 2047) :
    Form.filledLines ⟨[written, register, operand], pc, scope⟩
        (["addi RG1, x0, VL2"].map String.toList) =
      ["addi ".toList ++ register ++ ", x0, ".toList ++ Text.ofInt value.toInt] := by
  have reads : Template.ofText "addi RG1, x0, VL2".toList =
      [.literal "addi ".toList, .marker (.operand 1), .literal ", x0, ".toList,
        .marker (.part .value .low 2)] := by
    decide +kernel
  rw [← Split.low_ofWord_eq_toInt fits.1 fits.2]
  exact filledLines_singleton (fill_constant reads rfl rfl spelt)

theorem filledLines_long (spelt : Numeral.word? operand = some value) :
    Form.filledLines ⟨[written, register, operand], pc, scope⟩
        (["lui RG1, VH2", "addi RG1, RG1, VL2"].map String.toList) =
      [upper "lui".toList register (Split.ofWord value).high,
        addition "addi".toList register (Split.ofWord value).low] := by
  have readsHigh : Template.ofText "lui RG1, VH2".toList =
      [.literal ("lui".toList ++ " ".toList), .marker (.operand 1), .literal ", ".toList,
        .marker (.part .value .high 2)] := by
    decide +kernel
  have readsLow : Template.ofText "addi RG1, RG1, VL2".toList =
      [.literal ("addi".toList ++ " ".toList), .marker (.operand 1), .literal ", ".toList,
        .marker (.operand 1), .literal ", ".toList, .marker (.part .value .low 2)] := by
    decide +kernel
  exact filledLines_pair (fill_upper readsHigh rfl rfl spelt) (fill_addition readsLow rfl rfl spelt)

end Lines

/-- A register and a numeral are put into the recipe of the form as they are. -/
theorem exists_expand_register_immediate {expander : Expander} {form : Form} {recipe : Recipe}
    {line mnemonic register operand : Text} {value : Word}
    (read : Statement.read? line = some ⟨mnemonic, [register, operand]⟩)
    (selected : expander.table.select ⟨mnemonic, [register, operand]⟩ = .ok form)
    (noCompact : form.compact = none) (standard : form.standard = some recipe)
    (isRegister : Operand.shape register = .register)
    (spelt : Numeral.word? operand = some value) (wanted : Option Variant) (scope : Scope)
    (pc : Int) :
    ∃ expansion, expander.expand wanted scope pc line = .ok expansion ∧
      expansion.statements =
        Form.filledLines ⟨[mnemonic, register, operand], pc, scope⟩ recipe := by
  have found : form.recipe? (expander.variant wanted form) = some recipe := by
    rw [Expander.recipe?_variant_of_compact_eq_none noCompact, standard]
  have resolved := Statement.resolve_register_immediate mnemonic isRegister spelt scope
  exact Expander.exists_expand_eq_ok read selected resolved found

/-- The load of a numeral gives exactly its value, in one instruction if it fits the low field and
in two otherwise; nothing else is loaded. -/
theorem load_immediate_gives_value {expander : Expander} {line mnemonic register operand : Text}
    (table : expander.table = builtin)
    (tokens : Statement.tokenize line = [mnemonic, register, operand])
    (load : Text.lowercase mnemonic = "li".toList) (wanted : Option Variant) (scope : Scope)
    (pc : Int) :
    (∀ value, Operand.shape register = .register → Numeral.word? operand = some value →
      ∃ expansion, expander.expand wanted scope pc line = .ok expansion ∧
        (-2048 ≤ value.toInt ∧ value.toInt ≤ 2047 →
          expansion.statements =
            ["addi ".toList ++ register ++ ", x0, ".toList ++ Text.ofInt value.toInt] ∧
          expansion.length = 4) ∧
        (¬ (-2048 ≤ value.toInt ∧ value.toInt ≤ 2047) → ∃ fields : Split,
          expansion.statements = [upper "lui".toList register fields.high,
            addition "addi".toList register fields.low] ∧
          expansion.length = 8 ∧ -2048 ≤ fields.low ∧ fields.low ≤ 2047 ∧
          4096 * fields.high + fields.low = value.toInt)) ∧
    (Numeral.word? operand = none →
      expander.expand wanted scope pc line = .error (.operandMismatch mnemonic [register, operand]
        ["li t1,-100".toList, "li t1,10000000".toList])) := by
  have read : Statement.read? line = some ⟨mnemonic, [register, operand]⟩ := by
    rw [Statement.read?, tokens, Statement.ofWords?]
  rcases exists_loadForms with ⟨short, long, forms, formsOf⟩
  rw [← load, ← Table.formsOf_builtin] at formsOf
  refine ⟨?_, ?_⟩
  · intro value isRegister spelt
    have selected := forms.select_eq formsOf isRegister spelt
    rw [← table] at selected
    by_cases fits : -2048 ≤ value.toInt ∧ value.toInt ≤ 2047
    · rw [if_pos fits] at selected
      rcases exists_expand_register_immediate read selected forms.noCompact.1
        forms.shortReads.2.2 isRegister spelt wanted scope pc with ⟨expansion, success, statements⟩
      rw [filledLines_short spelt fits] at statements
      have length : expansion.length = 4 := by
        rw [Expansion.length, statements]
        rfl
      exact ⟨expansion, success, fun _ => ⟨statements, length⟩, fun tooLong => absurd fits tooLong⟩
    · rw [if_neg fits] at selected
      rcases exists_expand_register_immediate read selected forms.noCompact.2
        forms.longReads.2.2 isRegister spelt wanted scope pc with ⟨expansion, success, statements⟩
      rw [filledLines_long spelt] at statements
      have length : expansion.length = 8 := by
        rw [Expansion.length, statements]
        rfl
      have makesUp : 4096 * (Split.ofWord value).high + (Split.ofWord value).low = value.toInt := by
        rw [mul_comm]
        exact Split.recombine_ofWord value
      rcases Split.low_ofWord_bounds value with ⟨lower, upper⟩
      exact ⟨expansion, success, fun short => absurd short fits, fun _ =>
        ⟨Split.ofWord value, statements, length, lower, upper, makesUp⟩⟩
  · intro unspelt
    apply Expander.expand_eq_error_of_select read
    rw [table]
    exact forms.select_eq_error formsOf unspelt

theorem load_immediate_gives_value_belowLowField :
    (∃ expansion, Expander.expand ⟨builtin, .compact, 0⟩ none [] 0 "LI a0, 0xFFFFF7FF".toList =
        .ok expansion ∧
      ∃ fields : Split,
        expansion.statements = [upper "lui".toList "a0".toList fields.high,
          addition "addi".toList "a0".toList fields.low] ∧
        expansion.length = 8 ∧ -2048 ≤ fields.low ∧ fields.low ≤ 2047 ∧
        4096 * fields.high + fields.low = -2049) ∧
    Expander.expand ⟨builtin, .compact, 0⟩ none topScope 0 "li a0, buffer".toList =
      .error (.operandMismatch "li".toList ["a0".toList, "buffer".toList]
        ["li t1,-100".toList, "li t1,10000000".toList]) := by
  have tokens : Statement.tokenize "LI a0, 0xFFFFF7FF".toList =
      ["LI".toList, "a0".toList, "0xFFFFF7FF".toList] := rfl
  have load : Text.lowercase "LI".toList = "li".toList := by decide +kernel
  have isRegister : Operand.shape "a0".toList = .register := by decide +kernel
  have spelt : Numeral.word? "0xFFFFF7FF".toList = some 0xFFFFF7FF := by decide +kernel
  have labelTokens : Statement.tokenize "li a0, buffer".toList =
      ["li".toList, "a0".toList, "buffer".toList] := rfl
  have labelLoad : Text.lowercase "li".toList = "li".toList := by decide +kernel
  have table : (Expander.mk builtin .compact 0).table = builtin := rfl
  rcases load_immediate_gives_value table tokens load none [] 0 with ⟨ofNumeral, _⟩
  rcases load_immediate_gives_value table labelTokens labelLoad none topScope 0 with ⟨_, ofLabel⟩
  rcases ofNumeral _ isRegister spelt with ⟨expansion, success, _, two⟩
  exact ⟨⟨expansion, success, two (by decide)⟩, ofLabel rfl⟩

end PseudoAsm
