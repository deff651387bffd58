import PseudoAsm.Proofs.Operand
import PseudoAsm.Proofs.Table.Builtin
import PseudoAsm.Proofs.Template.Fill
import PseudoAsm.Proofs.Word.Split

/-!
# Reaching a target from the program counter

Addresses, far calls, loads and stores at a label are expanded to two instructions. The first one
adds the high field of the distance to the program counter, the second one its low field, and both
take the distance from the operand that names the target. This operand is in its turn a label,
replaced by its address in decimal, or a numeral in any notation. In either case the fields lead to
the address that it stands for.
-/

namespace PseudoAsm

open Table (builtin builtinForms builtinMnemonics)

/-- The loads from a label. -/
def loadMnemonics : List String :=
  ["lb", "lh", "lw", "lbu", "lhu"]

/-- The stores at a label. -/
def storeMnemonics : List String :=
  ["sb", "sh", "sw"]

/-- The mnemonics that are expanded to a pair of instructions relative to the program counter. -/
def relativeMnemonics : List Text :=
  (["la", "call", "tail"] ++ loadMnemonics ++ storeMnemonics).map String.toList

-- The lines of a pair; in each of them the last number is a field of the distance.

/-- A line that loads the high field. -/
def upper (mnemonic register : Text) (high : Int) : Text :=
  [mnemonic, " ".toList, register, ", ".toList, Text.ofInt high].flatten

/-- A line that adds the low field to a register. -/
def addition (mnemonic register : Text) (low : Int) : Text :=
  [mnemonic, " ".toList, register, ", ".toList, register, ", ".toList, Text.ofInt low].flatten

/-- A line that accesses memory at the low field from a base. -/
def access (mnemonic register : Text) (low : Int) (base : Text) : Text :=
  [mnemonic, " ".toList, register, ", ".toList, Text.ofInt low, "(".toList, base,
    ")".toList].flatten

/-- The pair of lines for a mnemonic with its operands, which of them is the target, and the fields
that the lines carry. -/
inductive RelativePair (fields : Split) : Text → List Text → Text → List Text → Prop
  | loadAddress (register target : Text) :
      RelativePair fields "la".toList [register, target] target
        [upper "auipc".toList register fields.high, addition "addi".toList register fields.low]
  | call (target : Text) :
      RelativePair fields "call".toList [target] target
        ["auipc x1, ".toList ++ Text.ofInt fields.high,
          "jalr x1, x1, ".toList ++ Text.ofInt fields.low]
  | tail (target : Text) :
      RelativePair fields "tail".toList [target] target
        ["auipc x6, ".toList ++ Text.ofInt fields.high,
          "jalr x0, x6, ".toList ++ Text.ofInt fields.low]
  | load {mnemonic : String} (known : mnemonic ∈ loadMnemonics) (register target : Text) :
      RelativePair fields mnemonic.toList [register, target] target
        [upper "auipc".toList register fields.high,
          access mnemonic.toList register fields.low register]
  | store {mnemonic : String} (known : mnemonic ∈ storeMnemonics)
      (register target scratch : Text) :
      RelativePair fields mnemonic.toList [register, target, scratch] target
        [upper "auipc".toList scratch fields.high,
          access mnemonic.toList register fields.low scratch]

namespace Form

/-- What a form says of the operands that it takes and of the lines that it stands for. -/
def Reads (form : Form) (mnemonic : String) (shapes : List Shape) (recipe : List String) : Prop :=
  form.mnemonic = mnemonic.toList ∧ form.operands.map Operand.shape = shapes ∧
    form.standard = some (recipe.map String.toList)

instance (form : Form) (mnemonic : String) (shapes : List Shape) (recipe : List String) :
    Decidable (form.Reads mnemonic shapes recipe) :=
  inferInstanceAs (Decidable (_ ∧ _ ∧ _))

end Form

/-- The forms of the mnemonics, and how their recipes read. -/
theorem relativeForm_cases : ∀ form ∈ builtinForms, form.mnemonic ∈ relativeMnemonics →
    form.Reads "la" [.register, .label] ["auipc RG1, PCH2", "addi RG1, RG1, PCL2"] ∨
    form.Reads "call" [.label] ["auipc x1, PCH1", "jalr x1, x1, PCL1"] ∨
    form.Reads "tail" [.label] ["auipc x6, PCH1", "jalr x0, x6, PCL1"] ∨
    (∃ mnemonic ∈ loadMnemonics, form.Reads mnemonic [.register, .label]
      ["auipc RG1, PCH2", mnemonic ++ " RG1, PCL2(RG1)"]) ∨
    ∃ mnemonic ∈ storeMnemonics, form.Reads mnemonic [.register, .label, .register]
      ["auipc RG3, PCH2", mnemonic ++ " RG1, PCL2(RG3)"] := by
  decide +kernel

section Lines

variable {site : Site} {mnemonic register base word : Text} {address : Word} {template : Text}

theorem fill_upper {source : Source} {position : Nat}
    (reads : Template.ofText template =
      [.literal (mnemonic ++ " ".toList), .marker (.operand position), .literal ", ".toList,
        .marker (.part source .high 2)])
    (registerAt : site.words[position]? = some register) (targetAt : site.words[2]? = some word)
    (spelt : Numeral.word? word = some address) :
    (Template.ofText template).fill site =
      upper mnemonic register (source.split address site.pc).high := by
  simp [reads, Template.fill_cons_operand registerAt, Template.fill_cons_part targetAt spelt, upper]

theorem fill_addition {source : Source}
    (reads : Template.ofText template =
      [.literal (mnemonic ++ " ".toList), .marker (.operand 1), .literal ", ".toList,
        .marker (.operand 1), .literal ", ".toList, .marker (.part source .low 2)])
    (registerAt : site.words[1]? = some register) (targetAt : site.words[2]? = some word)
    (spelt : Numeral.word? word = some address) :
    (Template.ofText template).fill site =
      addition mnemonic register (source.split address site.pc).low := by
  simp [reads, Template.fill_cons_operand registerAt, Template.fill_cons_part targetAt spelt,
    addition]

theorem fill_access {position : Nat}
    (reads : Template.ofText template =
      [.literal (mnemonic ++ " ".toList), .marker (.operand 1), .literal ", ".toList,
        .marker (.part .relative .low 2), .literal "(".toList, .marker (.operand position),
        .literal ")".toList])
    (registerAt : site.words[1]? = some register) (targetAt : site.words[2]? = some word)
    (baseAt : site.words[position]? = some base) (spelt : Numeral.word? word = some address) :
    (Template.ofText template).fill site =
      access mnemonic register (Split.relative address site.pc).low base := by
  simp [reads, Template.fill_cons_operand registerAt, Template.fill_cons_part targetAt spelt,
    Template.fill_cons_operand baseAt, access]

theorem fill_target {front : Text} {half : Half}
    (reads : Template.ofText template = [.literal front, .marker (.part .relative half 1)])
    (targetAt : site.words[1]? = some word) (spelt : Numeral.word? word = some address) :
    (Template.ofText template).fill site =
      front ++ Text.ofInt (half.field (Split.relative address site.pc)) := by
  simp [reads, Template.fill_cons_part targetAt spelt]

theorem filledLines_singleton {filled : Text}
    (lineFilled : (Template.ofText template).fill site = filled) :
    Form.filledLines site [template] = [filled] := by
  simp only [Form.filledLines, List.map_cons, List.map_nil, lineFilled]

theorem filledLines_pair {first second : String} {high low : Text}
    (highFilled : (Template.ofText first.toList).fill site = high)
    (lowFilled : (Template.ofText second.toList).fill site = low) :
    Form.filledLines site ([first, second].map String.toList) = [high, low] := by
  simp only [Form.filledLines, List.map_cons, List.map_nil, highFilled, lowFilled]

end Lines

section Pairs

variable {scope : Scope} {pc : Int} {written register target scratch word : Text} {address : Word}

theorem ofText_auipc :
    Template.ofText "auipc RG1, PCH2".toList =
      [.literal ("auipc".toList ++ " ".toList), .marker (.operand 1), .literal ", ".toList,
        .marker (.part .relative .high 2)] := by
  decide +kernel

theorem relativePair_loadAddress (spelt : Numeral.word? word = some address) :
    RelativePair (Split.relative address pc) "la".toList [register, target] target
      (Form.filledLines ⟨[written, register, word], pc, scope⟩
        (["auipc RG1, PCH2", "addi RG1, RG1, PCL2"].map String.toList)) := by
  have reads : Template.ofText "addi RG1, RG1, PCL2".toList =
      [.literal ("addi".toList ++ " ".toList), .marker (.operand 1), .literal ", ".toList,
        .marker (.operand 1), .literal ", ".toList, .marker (.part .relative .low 2)] := by
    decide +kernel
  rw [filledLines_pair (fill_upper ofText_auipc rfl rfl spelt) (fill_addition reads rfl rfl spelt)]
  exact .loadAddress register target

/-- The lines of a far call name no operand but the target, behind a front of their own. -/
theorem filledLines_fronts {first second : String} (highFront lowFront : String)
    (readsHigh : Template.ofText first.toList =
      [.literal highFront.toList, .marker (.part .relative .high 1)])
    (readsLow : Template.ofText second.toList =
      [.literal lowFront.toList, .marker (.part .relative .low 1)])
    (spelt : Numeral.word? word = some address) :
    Form.filledLines ⟨[written, word], pc, scope⟩ ([first, second].map String.toList) =
      [highFront.toList ++ Text.ofInt (Split.relative address pc).high,
        lowFront.toList ++ Text.ofInt (Split.relative address pc).low] :=
  filledLines_pair (fill_target readsHigh rfl spelt) (fill_target readsLow rfl spelt)

theorem relativePair_load {mnemonic : String} (known : mnemonic ∈ loadMnemonics)
    (spelt : Numeral.word? word = some address) :
    RelativePair (Split.relative address pc) mnemonic.toList [register, target] target
      (Form.filledLines ⟨[written, register, word], pc, scope⟩
        (["auipc RG1, PCH2", mnemonic ++ " RG1, PCL2(RG1)"].map String.toList)) := by
  have reads : ∀ mnemonic ∈ loadMnemonics, Template.ofText (mnemonic ++ " RG1, PCL2(RG1)").toList =
      [.literal (mnemonic.toList ++ " ".toList), .marker (.operand 1), .literal ", ".toList,
        .marker (.part .relative .low 2), .literal "(".toList, .marker (.operand 1),
        .literal ")".toList] := by
    decide +kernel
  rw [filledLines_pair (fill_upper ofText_auipc rfl rfl spelt)
    (fill_access (reads mnemonic known) rfl rfl rfl spelt)]
  exact .load known register target

theorem relativePair_store {mnemonic : String} (known : mnemonic ∈ storeMnemonics)
    (spelt : Numeral.word? word = some address) :
    RelativePair (Split.relative address pc) mnemonic.toList [register, target, scratch] target
      (Form.filledLines ⟨[written, register, word, scratch], pc, scope⟩
        (["auipc RG3, PCH2", mnemonic ++ " RG1, PCL2(RG3)"].map String.toList)) := by
  have readsHigh : Template.ofText "auipc RG3, PCH2".toList =
      [.literal ("auipc".toList ++ " ".toList), .marker (.operand 3), .literal ", ".toList,
        .marker (.part .relative .high 2)] := by
    decide +kernel
  have readsLow : ∀ mnemonic ∈ storeMnemonics,
      Template.ofText (mnemonic ++ " RG1, PCL2(RG3)").toList =
        [.literal (mnemonic.toList ++ " ".toList), .marker (.operand 1), .literal ", ".toList,
          .marker (.part .relative .low 2), .literal "(".toList, .marker (.operand 3),
          .literal ")".toList] := by
    decide +kernel
  rw [filledLines_pair (fill_upper readsHigh rfl rfl spelt)
    (fill_access (readsLow mnemonic known) rfl rfl rfl spelt)]
  exact .store known register target scratch

end Pairs

/-- The operands that a form of registers and labels accepts are replaced by words. -/
theorem Form.exists_resolves_of_accepts {scope : Scope} {form : Form} {statement : Statement}
    (accepted : form.accepts statement.operands = true)
    (defined : ∀ operand ∈ statement.operands, Operand.shape operand = .label →
      (scope.address? operand).isSome)
    (shapes : ∀ shape ∈ form.operands.map Operand.shape, shape = .register ∨ shape = .label) :
    ∃ words addresses,
      Resolves scope (form.operands.map Operand.shape) statement.operands words addresses ∧
        statement.resolve scope = .ok (statement.mnemonic :: words) := by
  rw [accepts_iff_forall₂] at accepted
  rcases exists_resolves_of_forall₂_accepts accepted shapes defined with
    ⟨words, addresses, resolves, resolved⟩
  exact ⟨words, addresses, resolves, Statement.resolve_eq_ok_iff.2 ⟨words, rfl, resolved⟩⟩

/-- A form that accepts the operands stands for the pair of lines that belongs to it. -/
theorem exists_relativePair {scope : Scope} (pc : Int) {form : Form} {statement : Statement}
    (member : form ∈ builtinForms) (relative : form.mnemonic ∈ relativeMnemonics)
    (accepted : form.accepts statement.operands = true)
    (defined : ∀ operand ∈ statement.operands, Operand.shape operand = .label →
      (scope.address? operand).isSome) :
    ∃ recipe words target address, form.standard = some recipe ∧
      statement.resolve scope = .ok words ∧ Operand.target? scope target = some address ∧
      RelativePair (Split.relative address pc) form.mnemonic statement.operands target
        (Form.filledLines ⟨words, pc, scope⟩ recipe) := by
  have resolve := Form.exists_resolves_of_accepts accepted defined
  rcases statement with ⟨written, operands⟩
  -- The shapes of the examples tell which operand is the target and which ones are copied.
  rcases relativeForm_cases form member relative with
    ⟨name, shapes, standard⟩ | ⟨name, shapes, standard⟩ | ⟨name, shapes, standard⟩ |
      ⟨mnemonic, known, name, shapes, standard⟩ | ⟨mnemonic, known, name, shapes, standard⟩
  all_goals
    rw [shapes] at resolve
    rw [name]
    rcases resolve (by decide) with ⟨words, addresses, resolves, resolved⟩
  · rcases resolves with _ | ⟨register, _ | _ | ⟨target, word, address, leads, spelt, _ | _⟩⟩
    exact ⟨_, _, target, address, standard, resolved, leads, relativePair_loadAddress spelt⟩
  · rcases resolves with _ | _ | ⟨target, word, address, leads, spelt, _ | _⟩
    refine ⟨_, _, target, address, standard, resolved, leads, ?_⟩
    rw [filledLines_fronts "auipc x1, " "jalr x1, x1, " (by decide +kernel) (by decide +kernel)
      spelt]
    exact .call target
  · rcases resolves with _ | _ | ⟨target, word, address, leads, spelt, _ | _⟩
    refine ⟨_, _, target, address, standard, resolved, leads, ?_⟩
    rw [filledLines_fronts "auipc x6, " "jalr x0, x6, " (by decide +kernel) (by decide +kernel)
      spelt]
    exact .tail target
  · rcases resolves with _ | ⟨register, _ | _ | ⟨target, word, address, leads, spelt, _ | _⟩⟩
    exact ⟨_, _, target, address, standard, resolved, leads, relativePair_load known spelt⟩
  · rcases resolves with
      _ | ⟨register, _ | _ | ⟨target, word, address, leads, spelt, _ | ⟨scratch, _ | _⟩⟩⟩
    exact ⟨_, _, target, address, standard, resolved, leads, relativePair_store known spelt⟩

/-- Wherever the program counter and the target are, the pair of instructions reaches the target. -/
theorem relative_expansion_reaches_target {expander : Expander} {wanted : Option Variant}
    {scope : Scope} {pc : Int} {line : Text} {statement : Statement} {form : Form}
    (table : expander.table = builtin) (read : Statement.read? line = some statement)
    (relative : Text.lowercase statement.mnemonic ∈ relativeMnemonics)
    (member : form ∈ builtin.formsOf statement.mnemonic)
    (accepted : form.accepts statement.operands = true)
    (standard : expander.variant wanted form = .standard)
    (defined : ∀ operand ∈ statement.operands, Operand.shape operand = .label →
      (scope.address? operand).isSome) :
    ∃ (expansion : Expansion) (target : Text) (address : Word) (fields : Split),
      expander.expand wanted scope pc line = .ok expansion ∧
      RelativePair fields (Text.lowercase statement.mnemonic) statement.operands target
        expansion.statements ∧
      Operand.target? scope target = some address ∧
      -2048 ≤ fields.low ∧ fields.low ≤ 2047 ∧
      -524288 ≤ fields.high ∧ fields.high ≤ 524288 ∧
      pc + 4096 * fields.high + fields.low ≡ address.toInt [ZMOD 2 ^ 32] := by
  have once : ∀ mnemonic ∈ relativeMnemonics, builtinMnemonics.count mnemonic = 1 := by
    decide +kernel
  have selected : expander.table.select statement = .ok form := by
    rw [table]
    exact Table.select_builtin_eq_ok member (once _ relative) accepted
  rcases Table.mem_formsOf_builtin_iff.1 member with ⟨builtinMember, name⟩
  rw [← name] at relative
  rcases exists_relativePair pc builtinMember relative accepted defined with
    ⟨recipe, words, target, address, found, resolved, leads, pair⟩
  have recipeFound : form.recipe? (expander.variant wanted form) = some recipe := by
    rw [standard]
    exact found
  rcases Expander.exists_expand_eq_ok read selected resolved recipeFound with
    ⟨expansion, success, statements⟩
  rw [← statements, name] at pair
  rcases Split.low_ofWord_bounds (address - Word.ofInt pc) with ⟨lowLower, lowUpper⟩
  rcases Split.high_ofWord_bounds (address - Word.ofInt pc) with ⟨highLower, highUpper⟩
  have reaches := Split.recombine_relative_modEq address pc
  rw [Split.recombine, mul_comm, ← add_assoc] at reaches
  exact ⟨expansion, target, address, Split.relative address pc, success, pair, leads, lowLower,
    lowUpper, highLower, highUpper, reaches⟩

/-- A label just above the middle of the address space. -/
def topScope : Scope :=
  [⟨SymbolTable.globalName, [⟨"buffer".toList, 0x80000008⟩], by decide⟩]

/-- From below the middle of the address space, where addresses become negative, the distance to the
label is still a short one. -/
theorem relative_expansion_reaches_target_topScope :
    ∃ (expansion : Expansion) (target : Text) (address : Word) (fields : Split),
      Expander.expand ⟨builtin, .standard, 0⟩ none topScope 0x7ffff5a8 "LW t0, buffer".toList =
        .ok expansion ∧
      RelativePair fields "lw".toList ["t0".toList, "buffer".toList] target
        expansion.statements ∧
      Operand.target? topScope target = some address ∧
      -2048 ≤ fields.low ∧ fields.low ≤ 2047 ∧
      -524288 ≤ fields.high ∧ fields.high ≤ 524288 ∧
      0x7ffff5a8 + 4096 * fields.high + fields.low ≡ address.toInt [ZMOD 2 ^ 32] := by
  have member : Table.loadForm "lw" ∈ builtin.formsOf "LW".toList :=
    Table.mem_formsOf_builtin_iff.2 ⟨by decide +kernel, by decide +kernel⟩
  have read : Statement.read? "LW t0, buffer".toList =
      some ⟨"LW".toList, ["t0".toList, "buffer".toList]⟩ := rfl
  refine relative_expansion_reaches_target rfl read ?_ member ?_ ?_ ?_
  · decide +kernel
  · decide +kernel
  · rfl
  · decide +kernel

end PseudoAsm
