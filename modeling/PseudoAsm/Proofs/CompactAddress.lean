import PseudoAsm.Proofs.LoadImmediate

/-!
# Addresses near zero

The compact recipes take the address of a label for the signed low field of one instruction. They
leave out the high field, so the instruction reaches its target exactly if the target is in the
first or the last 2 KiB of the address space, which nothing checks. The program counter does not
matter. Forms without a compact recipe are not changed by asking for it.
-/

namespace PseudoAsm

open Table (builtin builtinForms)

/-- The mnemonics that have a compact recipe. -/
def compactMnemonics : List Text :=
  (["la"] ++ loadMnemonics ++ storeMnemonics).map String.toList

/-- The line for a mnemonic with its operands, which of them is the target, and the immediate that
the line carries. -/
inductive CompactLine (low : Int) : Text → List Text → Text → Text → Prop
  | loadAddress (register target : Text) :
      CompactLine low "la".toList [register, target] target
        ("addi ".toList ++ register ++ ", x0, ".toList ++ Text.ofInt low)
  | load {mnemonic : String} (known : mnemonic ∈ loadMnemonics) (register target : Text) :
      CompactLine low mnemonic.toList [register, target] target
        (access mnemonic.toList register low "x0".toList)
  | store {mnemonic : String} (known : mnemonic ∈ storeMnemonics)
      (register target scratch : Text) :
      CompactLine low mnemonic.toList [register, target, scratch] target
        (access mnemonic.toList register low "x0".toList)

/-- The target is the second operand. -/
theorem CompactLine.getElem?_target {low : Int} {mnemonic target instruction : Text}
    {operands : List Text} (line : CompactLine low mnemonic operands target instruction) :
    operands[1]? = some target := by
  cases line <;> rfl

namespace Word

/-- The 2 KiB below zero and those above it are the last and the first ones of the address space. -/
theorem fits_iff_toNat {word : Word} :
    -2048 ≤ word.toInt ∧ word.toInt ≤ 2047 ↔
      word.toNat < 2048 ∨ 2 ^ 32 - 2048 ≤ word.toNat := by
  have bound := word.isLt
  rw [BitVec.toInt_eq_toNat_cond]
  split <;> omega

end Word

/-- The low field of a word is the word itself only where it fits the field. -/
theorem Split.low_ofWord_modEq_iff {word : Word} :
    (ofWord word).low ≡ word.toInt [ZMOD 2 ^ 32] ↔ -2048 ≤ word.toInt ∧ word.toInt ≤ 2047 := by
  rcases low_ofWord_bounds word with ⟨lower, upper⟩
  have wordLower := BitVec.le_toInt word
  have wordUpper := BitVec.toInt_lt (x := word)
  constructor
  · intro congruent
    rcases Int.modEq_iff_dvd.1 congruent with ⟨turns, distance⟩
    omega
  · rintro ⟨fitsBelow, fitsAbove⟩
    rw [low_ofWord_eq_toInt fitsBelow fitsAbove]

namespace Form

/-- What a form says of the operands that it takes and of its compact line. -/
def ReadsCompact (form : Form) (mnemonic : String) (shapes : List Shape) (line : String) : Prop :=
  form.mnemonic = mnemonic.toList ∧ form.operands.map Operand.shape = shapes ∧
    form.compact = some [line.toList]

instance (form : Form) (mnemonic : String) (shapes : List Shape) (line : String) :
    Decidable (form.ReadsCompact mnemonic shapes line) :=
  inferInstanceAs (Decidable (_ ∧ _ ∧ _))

end Form

/-- The forms with a compact recipe, and how the recipes read. -/
theorem compactForm_cases : ∀ form ∈ builtinForms, form.mnemonic ∈ compactMnemonics →
    form.ReadsCompact "la" [.register, .label] "addi RG1, x0, LL2" ∨
    (∃ mnemonic ∈ loadMnemonics, form.ReadsCompact mnemonic [.register, .label]
      (mnemonic ++ " RG1, LL2(x0)")) ∨
    ∃ mnemonic ∈ storeMnemonics, form.ReadsCompact mnemonic [.register, .label, .register]
      (mnemonic ++ " RG1, LL2(x0)") := by
  decide +kernel

/-- A built-in form has no compact recipe unless its mnemonic is among them. -/
theorem compact_eq_none_iff : ∀ form ∈ builtinForms,
    (form.compact = none ↔ form.mnemonic ∉ compactMnemonics) := by
  decide +kernel

section Lines

variable {site : Site} {mnemonic register word : Text} {address : Word} {template : Text}

theorem fill_compactAccess
    (reads : Template.ofText template =
      [.literal (mnemonic ++ " ".toList), .marker (.operand 1), .literal ", ".toList,
        .marker (.part .label .low 2), .literal "(x0)".toList])
    (registerAt : site.words[1]? = some register) (targetAt : site.words[2]? = some word)
    (spelt : Numeral.word? word = some address) :
    (Template.ofText template).fill site =
      access mnemonic register (Split.ofWord address).low "x0".toList := by
  have base : "(x0)".toList = "(".toList ++ ("x0".toList ++ ")".toList) := rfl
  simp [reads, Template.fill_cons_operand registerAt, Template.fill_cons_part targetAt spelt,
    access, base]

theorem ofText_compactAccess : ∀ mnemonic ∈ loadMnemonics ++ storeMnemonics,
    Template.ofText (mnemonic ++ " RG1, LL2(x0)").toList =
      [.literal (mnemonic.toList ++ " ".toList), .marker (.operand 1), .literal ", ".toList,
        .marker (.part .label .low 2), .literal "(x0)".toList] := by
  decide +kernel

theorem ofText_compactAddress :
    Template.ofText "addi RG1, x0, LL2".toList =
      [.literal "addi ".toList, .marker (.operand 1), .literal ", x0, ".toList,
        .marker (.part .label .low 2)] := by
  decide +kernel

end Lines

/-- The compact line carries the low field of the address that the target leads to. -/
theorem exists_compactLine {scope : Scope} {form : Form} {statement : Statement}
    (member : form ∈ builtinForms) (compact : form.mnemonic ∈ compactMnemonics)
    (accepted : form.accepts statement.operands = true)
    (defined : ∀ operand ∈ statement.operands, Operand.shape operand = .label →
      (scope.address? operand).isSome) :
    ∃ recipe words target address instruction, form.compact = some recipe ∧
      statement.resolve scope = .ok words ∧ Operand.target? scope target = some address ∧
      CompactLine (Split.ofWord address).low form.mnemonic statement.operands target instruction ∧
      ∀ pc, Form.filledLines ⟨words, pc, scope⟩ recipe = [instruction] := by
  have resolve := Form.exists_resolves_of_accepts accepted defined
  rcases statement with ⟨written, operands⟩
  rcases compactForm_cases form member compact with
    ⟨name, shapes, recipe⟩ | ⟨mnemonic, known, name, shapes, recipe⟩ |
      ⟨mnemonic, known, name, shapes, recipe⟩
  all_goals
    rw [shapes] at resolve
    rw [name]
    rcases resolve (by decide) with ⟨words, addresses, resolves, resolved⟩
  · rcases resolves with _ | ⟨register, _ | _ | ⟨target, word, address, leads, spelt, _ | _⟩⟩
    refine ⟨_, _, target, address, _, recipe, resolved, leads, .loadAddress register target, ?_⟩
    intro pc
    exact filledLines_singleton (fill_constant ofText_compactAddress rfl rfl spelt)
  · rcases resolves with _ | ⟨register, _ | _ | ⟨target, word, address, leads, spelt, _ | _⟩⟩
    refine ⟨_, _, target, address, _, recipe, resolved, leads, .load known register target, ?_⟩
    intro pc
    have reads := ofText_compactAccess mnemonic (List.mem_append_left _ known)
    exact filledLines_singleton (fill_compactAccess reads rfl rfl spelt)
  · rcases resolves with
      _ | ⟨register, _ | _ | ⟨target, word, address, leads, spelt, _ | ⟨scratch, _ | _⟩⟩⟩
    refine ⟨_, _, target, address, _, recipe, resolved, leads,
      .store known register target scratch, ?_⟩
    intro pc
    have reads := ofText_compactAccess mnemonic (List.mem_append_right _ known)
    exact filledLines_singleton (fill_compactAccess reads rfl rfl spelt)

namespace Expander

variable {expander other : Expander} {wanted asked : Option Variant} {scope : Scope}
  {line : Text} {statement : Statement} {form : Form}

theorem variant_eq_compact {recipe : Recipe} (compact : wanted.getD expander.preferred = .compact)
    (found : form.compact = some recipe) : expander.variant wanted form = .compact := by
  rw [variant, compact, found]

/-- Asking for the compact variant makes no difference to a form that has none. -/
theorem expand_eq_of_compact_eq_none (read : Statement.read? line = some statement)
    (selected : expander.table.select statement = .ok form)
    (selectedToo : other.table.select statement = .ok form) (noCompact : form.compact = none)
    (pc : Int) : expander.expand wanted scope pc line = other.expand asked scope pc line := by
  simp only [expand, expandForm, read, selected, selectedToo,
    variant_of_compact_eq_none noCompact, bind, Except.bind]

end Expander

/-- With the compact variant, what leads to an address is one line that does not depend on the
program counter, and the line is right exactly for targets in the first and the last 2 KiB of the
address space. All other forms are expanded as without it. -/
theorem compact_expansion_right_near_zero {expander : Expander} {wanted : Option Variant}
    {line : Text} {statement : Statement} {form : Form}
    (table : expander.table = builtin) (compact : wanted.getD expander.preferred = .compact)
    (read : Statement.read? line = some statement)
    (selected : builtin.select statement = .ok form) (scope : Scope) :
    (Text.lowercase statement.mnemonic ∈ compactMnemonics →
      (∀ operand ∈ statement.operands, Operand.shape operand = .label →
        (scope.address? operand).isSome) →
      ∃ (target : Text) (address : Word) (low : Int) (instruction : Text),
        Operand.target? scope target = some address ∧
        CompactLine low (Text.lowercase statement.mnemonic) statement.operands target
          instruction ∧
        (∀ pc, ∃ expansion, expander.expand wanted scope pc line = .ok expansion ∧
          expansion.statements = [instruction]) ∧
        -2048 ≤ low ∧ low ≤ 2047 ∧
        (low ≡ address.toInt [ZMOD 2 ^ 32] ↔
          address.toNat < 2048 ∨ 2 ^ 32 - 2048 ≤ address.toNat) ∧
        (low ≡ address.toInt [ZMOD 2 ^ 32] ↔ -2048 ≤ address.toInt ∧ address.toInt ≤ 2047)) ∧
    (form.compact = none ↔ Text.lowercase statement.mnemonic ∉ compactMnemonics) ∧
    (form.compact = none → ∀ (other : Expander) (asked : Option Variant) (pc : Int),
      other.table = builtin →
        expander.expand wanted scope pc line = other.expand asked scope pc line) := by
  rcases Table.mem_formsOf_and_accepts_of_select_eq_ok selected with ⟨member, accepted⟩
  rcases Table.mem_formsOf_builtin_iff.1 member with ⟨builtinMember, name⟩
  have selectedHere : expander.table.select statement = .ok form := by
    rw [table]
    exact selected
  rw [← name]
  refine ⟨?_, compact_eq_none_iff form builtinMember, ?_⟩
  · intro hasCompact defined
    rcases exists_compactLine builtinMember hasCompact accepted defined with
      ⟨recipe, words, target, address, instruction, found, resolved, leads, isLine, filled⟩
    have recipeFound : form.recipe? (expander.variant wanted form) = some recipe := by
      rw [Expander.variant_eq_compact compact found]
      exact found
    have expands : ∀ pc, ∃ expansion, expander.expand wanted scope pc line = .ok expansion ∧
        expansion.statements = [instruction] := by
      intro pc
      rw [← filled pc]
      exact Expander.exists_expand_eq_ok read selectedHere resolved recipeFound
    rcases Split.low_ofWord_bounds address with ⟨lower, upper⟩
    exact ⟨target, address, _, instruction, leads, isLine, expands, lower, upper,
      Split.low_ofWord_modEq_iff.trans Word.fits_iff_toNat, Split.low_ofWord_modEq_iff⟩
  · intro noCompact other asked pc otherTable
    have selectedThere : other.table.select statement = .ok form := by
      rw [otherTable]
      exact selected
    exact Expander.expand_eq_of_compact_eq_none read selectedHere selectedThere noCompact pc

/-- A label where the last 2 KiB of the address space start, and one just after the first 2 KiB. -/
def edgeScope : Scope :=
  [⟨SymbolTable.globalName, [⟨"last".toList, 0xfffff800⟩, ⟨"after".toList, 0x800⟩], by decide⟩]

/-- Both labels have the low field -2048, which is right for the one in the last 2 KiB only. -/
theorem compact_expansion_right_near_zero_edges :
    (∃ low instruction,
      CompactLine low "sw".toList ["a0".toList, "last".toList, "t1".toList] "last".toList
        instruction ∧
      (∀ pc, ∃ expansion, Expander.expand ⟨builtin, .standard, 0⟩ (some .compact) edgeScope pc
        "SW a0, last, t1".toList = .ok expansion ∧ expansion.statements = [instruction]) ∧
      -2048 ≤ low ∧ low ≤ 2047 ∧ low ≡ 0xfffff800 [ZMOD 2 ^ 32]) ∧
    (∃ low instruction,
      CompactLine low "la".toList ["a0".toList, "after".toList] "after".toList instruction ∧
      (∀ pc, ∃ expansion, Expander.expand ⟨builtin, .compact, 0⟩ none edgeScope pc
        "la a0, after".toList = .ok expansion ∧ expansion.statements = [instruction]) ∧
      -2048 ≤ low ∧ low ≤ 2047 ∧ ¬ low ≡ 0x800 [ZMOD 2 ^ 32]) ∧
    ∀ pc, Expander.expand ⟨builtin, .compact, 0⟩ none edgeScope pc "call after".toList =
      Expander.expand ⟨builtin, .standard, 0⟩ none edgeScope pc "call after".toList := by
  have last : Operand.target? edgeScope "last".toList = some 0xfffff800 := by decide +kernel
  have after : Operand.target? edgeScope "after".toList = some 0x800 := by decide +kernel
  refine ⟨?_, ?_, ?_⟩
  · have read : Statement.read? "SW a0, last, t1".toList =
        some ⟨"SW".toList, ["a0".toList, "last".toList, "t1".toList]⟩ := rfl
    have selected : builtin.select ⟨"SW".toList, ["a0".toList, "last".toList, "t1".toList]⟩ =
        .ok (Table.storeForm "sw") := by
      decide +kernel
    have name : Text.lowercase "SW".toList = "sw".toList := by decide +kernel
    have table : (Expander.mk builtin .standard 0).table = builtin := rfl
    have compact : (some Variant.compact).getD Variant.standard = .compact := rfl
    have applied := compact_expansion_right_near_zero table compact read selected edgeScope
    rcases applied.1 (by decide +kernel) (by decide +kernel) with
      ⟨target, address, low, instruction, leads, isLine, expands, lower, upper, nearZero, _⟩
    rw [name] at isLine
    cases isLine.getElem?_target
    cases last.symm.trans leads
    exact ⟨low, instruction, isLine, expands, lower, upper, (nearZero.2 (by decide)).trans rfl⟩
  · have read : Statement.read? "la a0, after".toList =
        some ⟨"la".toList, ["a0".toList, "after".toList]⟩ := rfl
    have selected : builtin.select ⟨"la".toList, ["a0".toList, "after".toList]⟩ =
        .ok Table.loadAddressForm := by
      decide +kernel
    have name : Text.lowercase "la".toList = "la".toList := by decide +kernel
    have table : (Expander.mk builtin .compact 0).table = builtin := rfl
    have compact : (none : Option Variant).getD Variant.compact = .compact := rfl
    have applied := compact_expansion_right_near_zero table compact read selected edgeScope
    rcases applied.1 (by decide +kernel) (by decide +kernel) with
      ⟨target, address, low, instruction, leads, isLine, expands, lower, upper, nearZero, _⟩
    rw [name] at isLine
    cases isLine.getElem?_target
    cases after.symm.trans leads
    refine ⟨low, instruction, isLine, expands, lower, upper, ?_⟩
    intro right
    exact absurd (nearZero.1 right) (by decide)
  · have read : Statement.read? "call after".toList =
        some ⟨"call".toList, ["after".toList]⟩ := rfl
    have selects : ∃ form, builtin.select ⟨"call".toList, ["after".toList]⟩ = .ok form ∧
        form.compact = none :=
      ⟨_, rfl, by decide +kernel⟩
    rcases selects with ⟨form, selected, noCompact⟩
    have table : (Expander.mk builtin .compact 0).table = builtin := rfl
    have compact : (none : Option Variant).getD Variant.compact = .compact := rfl
    have applied := compact_expansion_right_near_zero table compact read selected edgeScope
    intro pc
    exact applied.2.2 noCompact _ _ pc rfl

end PseudoAsm
