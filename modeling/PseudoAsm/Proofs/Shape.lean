import PseudoAsm.Proofs.Register

/-!
# The shape of an operand

The shape of an operand shows in its text: a parenthesis is a delimiter, the name of a register is a
register, a numeral that spells a word is an immediate, and anything else is a label. At most one of
the first three tests succeeds, so they may be made in any order.

One kind of text escapes this: the name of a register with a line feed behind it. It is no name of a
register, but it is taken for the register all the same. No operand on a line ends with a line feed,
so this shows only in a text that does not come from a line.
-/

namespace PseudoAsm

/-- Where at most one of the items has an answer, their order does not matter. -/
theorem findSome?_eq_of_perm {α β : Type} {answer : α → Option β} {items others : List α}
    (perm : items.Perm others)
    (apart : items.Pairwise fun first second => answer first = none ∨ answer second = none) :
    items.findSome? answer = others.findSome? answer := by
  induction perm with
  | nil => rfl
  | cons item _ ih =>
      rw [List.findSome?_cons, List.findSome?_cons, ih (List.pairwise_cons.1 apart).2]
  | swap second first items =>
      rcases (List.pairwise_cons.1 apart).1 second List.mem_cons_self with isNone | isNone
      · simp [List.findSome?_cons, isNone]
      · simp [List.findSome?_cons, isNone]
  | trans perm _ ihFirst ihSecond =>
      have apartBetween := (perm.pairwise_iff fun apart => apart.symm).1 apart
      rw [ihFirst apart, ihSecond apartBetween]

namespace Operand

/-- The names of registers: a letter with a decimal number, a name that says what the register is
for, or any name after a dollar sign. -/
inductive NamesRegister : Text → Prop
  | numbered {letter : Char} {bound number : Nat}
      (isFamily : (letter, bound) ∈ [('x', 32), ('t', 7), ('s', 12), ('a', 8)])
      (below : number < bound) : NamesRegister (letter :: Text.ofNat number)
  | special {name : String} (isSpecial : name ∈ ["zero", "ra", "sp", "gp", "tp", "fp"]) :
      NamesRegister name.toList
  | dollar {name : Text} (nonempty : name ≠ [])
      (areWordCharacters : ∀ c ∈ name, Text.isWordCharacter c = true) :
      NamesRegister ('$' :: name)

/-- The tests that tell the shape of an operand, each with the shape that it finds. -/
def shapeTests : List (Text → Option Shape) := [
  fun text => if isDelimiter text then some .delimiter else none,
  fun text => if isRegister text then some .register else none,
  fun text => (Numeral.word? text).map .immediate]

/-- The shape that the first successful test finds; a label if there is none. -/
def shapeByTests (tests : List (Text → Option Shape)) (text : Text) : Shape :=
  (tests.findSome? fun test => test text).getD .label

/-- The shape of a text is the one that the text shows. -/
structure HasShownShape (text : Text) : Prop where
  delimiter : shape text = .delimiter ↔ text = "(".toList ∨ text = ")".toList
  register : shape text = .register ↔ NamesRegister text
  immediate : ∀ value, shape text = .immediate value ↔ Numeral.readWord text = .ok value
  label : shape text = .label ↔ ¬ (text = "(".toList ∨ text = ")".toList) ∧
    ¬ NamesRegister text ∧ ∀ value, Numeral.readWord text ≠ .ok value

variable {text : Text}

section RegisterNames

theorem mem_numbered_iff {letter : Char} {bound : Nat} :
    text ∈ numbered letter bound ↔ ∃ number < bound, text = letter :: Text.ofNat number := by
  simp [numbered, eq_comm]

theorem namesRegister_of_mem_registerNames (member : text ∈ registerNames) :
    NamesRegister text := by
  simp only [registerNames, List.mem_append, mem_numbered_iff, List.mem_map, or_assoc] at member
  rcases member with ⟨_, below, rfl⟩ | ⟨_, isSpecial, rfl⟩ | ⟨_, below, rfl⟩ | ⟨_, below, rfl⟩ |
    ⟨_, below, rfl⟩
  · exact .numbered (by decide) below
  · exact .special isSpecial
  · exact .numbered (by decide) below
  · exact .numbered (by decide) below
  · exact .numbered (by decide) below

theorem isRegisterName_of_mem_registerNames (member : text ∈ registerNames) :
    isRegisterName text = true := by
  have noDollar : ∀ name ∈ registerNames, name.head? ≠ some '$' := by decide
  unfold isRegisterName
  split
  · exact absurd rfl (noDollar _ member)
  · simpa using member

theorem isRegisterName_dollar_iff {name : Text} :
    isRegisterName ('$' :: name) = true ↔
      name ≠ [] ∧ ∀ c ∈ name, Text.isWordCharacter c = true := by
  simp [isRegisterName]

/-- The list of names together with the dollar sign is the inductive description. -/
theorem isRegisterName_iff : isRegisterName text = true ↔ NamesRegister text := by
  constructor
  · intro register
    by_cases listed : text ∈ registerNames
    · exact namesRegister_of_mem_registerNames listed
    · unfold isRegisterName at register
      split at register
      · rcases isRegisterName_dollar_iff.1 register with ⟨nonempty, areWordCharacters⟩
        exact .dollar nonempty areWordCharacters
      · exact absurd (by simpa using register) listed
  · intro names
    cases names with
    | numbered isFamily below =>
        apply isRegisterName_of_mem_registerNames
        simp only [registerNames, List.mem_append, mem_numbered_iff]
        simp only [List.mem_cons, List.not_mem_nil, or_false, Prod.mk.injEq] at isFamily
        rcases isFamily with ⟨rfl, rfl⟩ | ⟨rfl, rfl⟩ | ⟨rfl, rfl⟩ | ⟨rfl, rfl⟩
        · exact .inl (.inl (.inl (.inl ⟨_, below, rfl⟩)))
        · exact .inl (.inl (.inr ⟨_, below, rfl⟩))
        · exact .inl (.inr ⟨_, below, rfl⟩)
        · exact .inr ⟨_, below, rfl⟩
    | special isSpecial =>
        apply isRegisterName_of_mem_registerNames
        simp only [registerNames, List.mem_append]
        exact .inl (.inl (.inl (.inr (List.mem_map_of_mem isSpecial))))
    | dollar nonempty areWordCharacters =>
        exact isRegisterName_dollar_iff.2 ⟨nonempty, areWordCharacters⟩

theorem NamesRegister.lineFeed_not_mem (names : NamesRegister text) : '\n' ∉ text :=
  (isPlain_of_isRegisterName (isRegisterName_iff.2 names)).not_mem (by decide)

/-- One line feed behind a name is overlooked, and nothing else. -/
theorem isRegister_iff :
    isRegister text = true ↔
      NamesRegister text ∨ ∃ name, NamesRegister name ∧ text = name ++ ['\n'] := by
  rw [isRegister, isRegisterName_iff]
  constructor
  · intro names
    rcases eq_or_eq_append_dropLineFeed text with same | fed
    · left
      rwa [same]
    · exact .inr ⟨_, names, fed⟩
  · rintro (names | ⟨name, names, rfl⟩)
    · have solid : text.getLast? ≠ some '\n' :=
        fun last => names.lineFeed_not_mem (List.mem_of_getLast? last)
      simpa [dropLineFeed, solid] using names
    · simpa [dropLineFeed] using names

end RegisterNames

section Tests

theorem isDelimiter_iff : isDelimiter text = true ↔ text = "(".toList ∨ text = ")".toList := by
  simp [isDelimiter]

theorem isRegister_eq_false_of_isDelimiter (delimiter : isDelimiter text = true) :
    isRegister text = false := by
  rcases isDelimiter_iff.1 delimiter with rfl | rfl
  · decide
  · decide

/-- No two tests succeed on the same text. -/
theorem pairwise_shapeTests (text : Text) :
    shapeTests.Pairwise fun first second => first text = none ∨ second text = none := by
  cases delimiter : isDelimiter text with
  | true =>
      simp [shapeTests, isRegister_eq_false_of_isDelimiter delimiter,
        word?_eq_none_of_isDelimiter delimiter]
  | false =>
      cases register : isRegister text with
      | true => simp [shapeTests, delimiter, word?_eq_none_of_isRegister register]
      | false => simp [shapeTests, delimiter, register]

/-- The tests in the order in which they are made. -/
theorem shapeByTests_shapeTests (text : Text) : shapeByTests shapeTests text = shape text := by
  simp only [shapeByTests, shapeTests, shape, List.findSome?_cons, List.findSome?_nil]
  cases isDelimiter text with
  | true => simp
  | false =>
      cases isRegister text with
      | true => simp
      | false => cases Numeral.word? text <;> simp

/-- The tests in any order. -/
theorem shapeByTests_eq_of_perm {tests : List (Text → Option Shape)}
    (perm : tests.Perm shapeTests) (text : Text) : shapeByTests tests text = shape text := by
  have sameAnswer := findSome?_eq_of_perm perm.symm (pairwise_shapeTests text)
  rw [← shapeByTests_shapeTests, shapeByTests, shapeByTests, sameAnswer]

end Tests

section Shapes

theorem shape_eq_delimiter_iff :
    shape text = .delimiter ↔ text = "(".toList ∨ text = ")".toList := by
  rw [← isDelimiter_iff, shape]
  cases isDelimiter text with
  | true => simp
  | false =>
      cases isRegister text with
      | true => simp
      | false => cases Numeral.word? text <;> simp

theorem shape_eq_register_iff : shape text = .register ↔ isRegister text = true := by
  refine ⟨isRegister_of_shape_eq, fun register => ?_⟩
  cases delimiter : isDelimiter text with
  | true => simp [isRegister_eq_false_of_isDelimiter delimiter] at register
  | false => simp [shape, delimiter, register]

theorem shape_eq_immediate_iff_readWord {value : Word} :
    shape text = .immediate value ↔ Numeral.readWord text = .ok value := by
  rw [shape_eq_immediate_iff, Numeral.word?]
  cases Numeral.readWord text <;> simp [Except.toOption]

theorem shape_eq_label_iff :
    shape text = .label ↔ shape text ≠ .delimiter ∧ shape text ≠ .register ∧
      ∀ value, shape text ≠ .immediate value := by
  cases shape text <;> simp

end Shapes

/-- Only a line feed behind the name of a register is overlooked. -/
theorem hasShownShape_iff :
    HasShownShape text ↔ ∀ name, NamesRegister name → text ≠ name ++ ['\n'] := by
  constructor
  · rintro shown name names rfl
    have register := shape_eq_register_iff.2 (isRegister_iff.2 (.inr ⟨name, names, rfl⟩))
    exact (shown.register.1 register).lineFeed_not_mem (by simp)
  · intro notFed
    have register : shape text = .register ↔ NamesRegister text := by
      rw [shape_eq_register_iff, isRegister_iff, or_iff_left]
      rintro ⟨name, names, fed⟩
      exact notFed name names fed
    refine ⟨shape_eq_delimiter_iff, register, fun _ => shape_eq_immediate_iff_readWord, ?_⟩
    simp only [shape_eq_label_iff, ne_eq, register, shape_eq_delimiter_iff,
      shape_eq_immediate_iff_readWord]

/-- The shape of a text is the one that it shows, unless it is the name of a register with a line
feed behind it, which is a register too. No text passes two of the tests, whose order does not
matter therefore. -/
theorem shape_is_shown_iff (text : Text) :
    (HasShownShape text ↔ ∀ name, NamesRegister name → text ≠ name ++ ['\n']) ∧
    (∀ name, NamesRegister name → text = name ++ ['\n'] → shape text = .register) ∧
    (shapeTests.Pairwise fun first second => first text = none ∨ second text = none) ∧
    ∀ tests, tests.Perm shapeTests → shapeByTests tests text = shape text := by
  refine ⟨hasShownShape_iff, ?_, pairwise_shapeTests text, fun tests perm =>
    shapeByTests_eq_of_perm perm text⟩
  intro name names fed
  exact shape_eq_register_iff.2 (isRegister_iff.2 (.inr ⟨name, names, fed⟩))

/-- Numbers of registers end at a bound and have no zeros in front. -/
example : ["x31", "x32", "x05", "s11", "s12"].map (fun name => shape name.toList) =
    [.register, .label, .label, .register, .label] := by
  decide

/-- With a line feed behind it, the name of a register is taken for the register. -/
theorem shape_of_name_with_lineFeed :
    shape "x5\n".toList = .register ∧ ¬ NamesRegister "x5\n".toList ∧
      ¬ HasShownShape "x5\n".toList := by
  have register : shape "x5\n".toList = .register := by decide
  have noName : ¬ NamesRegister "x5\n".toList := fun names => names.lineFeed_not_mem (by decide)
  exact ⟨register, noName, fun shown => noName (shown.register.1 register)⟩

end Operand

end PseudoAsm
