import PseudoAsm.Proofs.Text.Decimal
import PseudoAsm.Proofs.Word.Split

/-!
# Which texts are integer literals

A literal is at most one sign, the mark of a radix and at least one digit of this radix, and nothing
else. The reader takes a text apart from its start: the sign is looked for first, then the mark, and
all that is left has to be digits. No digit is a sign, and the letter of a mark is no decimal digit,
so a literal can be taken apart in one way only, and the reader accepts just the literals.

A decimal literal stands for its number, which has to be a signed word. A hexadecimal or binary
literal stands for the signed word that is congruent to its number. Decimal digits are turned into a
number only if there are not too many of them, zeros in front included.
-/

namespace PseudoAsm

namespace Radix

/-- The digits of a radix, with letters in both cases. -/
def alphabet : Radix → Text
  | .decimal => "0123456789".toList
  | .hexadecimal => "0123456789abcdefABCDEF".toList
  | .binary => "01".toList

/-- What may stand in front of the digits. -/
def marks : Radix → List Text
  | .decimal => ["".toList]
  | .hexadecimal => ["0x".toList, "0X".toList]
  | .binary => ["0b".toList, "0B".toList]

end Radix

/-- The signs of a number, none among them. -/
def signs : List Text :=
  ["".toList, "+".toList, "-".toList]

/-- An integer literal as it is written. -/
structure Literal where
  sign : Text
  radix : Radix
  mark : Text
  digits : Text
  isSign : sign ∈ signs
  isMark : mark ∈ radix.marks
  hasDigits : digits ≠ []
  areDigits : ∀ c ∈ digits, c ∈ radix.alphabet

namespace Digits

/-- The value of a digit is its place among the digits, whatever its case. -/
def place (c : Char) : Nat :=
  hexadecimalDigits.idxOf c.toLower

theorem digit?_of_mem_alphabet (radix : Radix) :
    ∀ c ∈ radix.alphabet, digit? radix.base c = some (place c) := by
  cases radix <;> decide

theorem toNat_lt_of_value?_eq_some {c : Char} {value : Nat} (digit : value? c = some value) :
    c.toNat < 128 := by
  unfold value? at digit
  split_ifs at digit with decimal small capital
  · have toNine : c.toNat ≤ 57 := decimal.2
    omega
  · have toF : c.toNat ≤ 102 := small.2
    omega
  · have toF : c.toNat ≤ 70 := capital.2
    omega

theorem mem_alphabet_of_digit?_eq_some {radix : Radix} {c : Char} {value : Nat}
    (digit : digit? radix.base c = some value) : c ∈ radix.alphabet := by
  have each : ∀ code < 128, (digit? radix.base (Char.ofNat code)).isSome = true →
      Char.ofNat code ∈ radix.alphabet := by
    cases radix <;> decide +kernel
  have latin : c.toNat < 128 :=
    toNat_lt_of_value?_eq_some (Option.filter_eq_some_iff.1 digit).1
  have isDigit := each c.toNat latin
  rw [Char.ofNat_toNat, digit] at isDigit
  exact isDigit rfl

/-- Characters are digits exactly if they are in the alphabet of the radix. -/
theorem mapM_digit?_eq_some_iff {radix : Radix} {text : Text} {values : List Nat} :
    text.mapM (digit? radix.base) = some values ↔
      (∀ c ∈ text, c ∈ radix.alphabet) ∧ text.map place = values := by
  induction text generalizing values with
  | nil => simp [eq_comm]
  | cons c text ih =>
      simp only [List.mapM_cons, bind, Option.bind_eq_some_iff, pure, Option.some.injEq, ih,
        List.forall_mem_cons, List.map_cons]
      constructor
      · rintro ⟨value, digit, _, ⟨later, rfl⟩, rfl⟩
        have member := mem_alphabet_of_digit?_eq_some digit
        rw [digit?_of_mem_alphabet radix c member, Option.some.injEq] at digit
        exact ⟨⟨member, later⟩, by rw [digit]⟩
      · rintro ⟨⟨member, later⟩, rfl⟩
        exact ⟨place c, digit?_of_mem_alphabet radix c member, _, ⟨later, rfl⟩, rfl⟩

/-- A text of digits is one that is not empty and holds nothing else. -/
theorem read?_eq_some_iff {radix : Radix} {text : Text} {values : List Nat} :
    read? radix.base text = some values ↔
      text ≠ [] ∧ (∀ c ∈ text, c ∈ radix.alphabet) ∧ text.map place = values := by
  cases text with
  | nil => simp [read?]
  | cons c text =>
      rw [read?, List.isEmpty_cons, if_neg Bool.false_ne_true, mapM_digit?_eq_some_iff]
      simp

/-- Every digit counts for its value times a power of the base, by its distance from the end. -/
theorem number_eq_ofDigits (base : Nat) (values : List Nat) :
    number base values = Nat.ofDigits base values.reverse := by
  rw [Nat.ofDigits_eq_foldr, List.foldr_reverse, number]
  simp only [Nat.cast_id, Nat.mul_comm, Nat.add_comm]

end Digits

section Reading

variable {text unsigned digits : Text} {negative : Bool} {radix : Radix}

/-- What is taken off in front of a number is one of the signs. -/
theorem exists_sign_of_splitSign (split : splitSign text = (negative, unsigned)) :
    ∃ sign ∈ signs, text = sign ++ unsigned ∧ decide (sign = ['-']) = negative := by
  unfold splitSign at split
  split at split
  all_goals
    rcases Prod.mk.inj split with ⟨rfl, rfl⟩
  · exact ⟨['-'], by decide, rfl, rfl⟩
  · exact ⟨['+'], by decide, rfl, rfl⟩
  · exact ⟨[], by decide, rfl, rfl⟩

theorem splitSign_sign_append {sign : Text} (isSign : sign ∈ signs)
    (noSign : ∀ c ∈ unsigned, c ≠ '-' ∧ c ≠ '+') :
    splitSign (sign ++ unsigned) = (decide (sign = ['-']), unsigned) := by
  simp only [signs, List.mem_cons, List.not_mem_nil, or_false] at isSign
  rcases isSign with rfl | rfl | rfl
  · cases unsigned with
    | nil => rfl
    | cons c unsigned =>
        have first := noSign c List.mem_cons_self
        simp [splitSign, first]
  · rfl
  · rfl

/-- What is taken off in front of the digits is one of the marks of the radix. -/
theorem Radix.exists_mark_of_ofText (split : ofText text = (radix, digits)) :
    ∃ mark ∈ radix.marks, text = mark ++ digits := by
  unfold ofText at split
  split at split
  all_goals
    rcases Prod.mk.inj split with ⟨rfl, rfl⟩
  · exact ⟨"0x".toList, by decide, rfl⟩
  · exact ⟨"0X".toList, by decide, rfl⟩
  · exact ⟨"0b".toList, by decide, rfl⟩
  · exact ⟨"0B".toList, by decide, rfl⟩
  · exact ⟨"".toList, by decide, rfl⟩

/-- No digits can be mistaken for a mark of another radix. -/
theorem Radix.ofText_mark_append {mark : Text} (isMark : mark ∈ radix.marks)
    (areDigits : ∀ c ∈ digits, c ∈ radix.alphabet) :
    ofText (mark ++ digits) = (radix, digits) := by
  cases radix with
  | decimal =>
      rw [List.mem_singleton.1 isMark]
      change ofText digits = _
      unfold ofText
      split
      · exact absurd (areDigits 'x' (by simp)) (by decide)
      · exact absurd (areDigits 'X' (by simp)) (by decide)
      · exact absurd (areDigits 'b' (by simp)) (by decide)
      · exact absurd (areDigits 'B' (by simp)) (by decide)
      · rfl
  | hexadecimal =>
      simp only [marks, List.mem_cons, List.not_mem_nil, or_false] at isMark
      rcases isMark with rfl | rfl <;> rfl
  | binary =>
      simp only [marks, List.mem_cons, List.not_mem_nil, or_false] at isMark
      rcases isMark with rfl | rfl <;> rfl

end Reading

namespace Literal

variable (literal : Literal)

/-- The literal as it is written. -/
def text : Text :=
  literal.sign ++ (literal.mark ++ literal.digits)

/-- The number that the digits denote. -/
def magnitude : Nat :=
  Nat.ofDigits literal.radix.base (literal.digits.map Digits.place).reverse

/-- The number that the literal stands for, with its sign. -/
def value : Int :=
  if literal.sign = ['-'] then -literal.magnitude else literal.magnitude

/-- A decimal literal has to be a signed word, another one a pattern of at most 32 bits. -/
def InRange : Prop :=
  match literal.radix with
  | .decimal => -2 ^ 31 ≤ literal.value ∧ literal.value ≤ 2 ^ 31 - 1
  | _ => literal.magnitude ≤ 2 ^ 32 - 1

/-- Whether the digits are few enough to be turned into a number. -/
def IsConvertible : Prop :=
  literal.radix = .decimal → literal.digits.length ≤ Digits.decimalLimit

/-- An integer is what a literal denotes: the signed word that is congruent to its number, and the
number itself if the literal is decimal. -/
structure Denotes (number : Int) : Prop where
  lower : -2 ^ 31 ≤ number
  upper : number ≤ 2 ^ 31 - 1
  congruent : number ≡ literal.value [ZMOD 2 ^ 32]
  exact : literal.radix = .decimal → number = literal.value

/-- The numeral that is read from the literal. -/
def numeral : Numeral :=
  ⟨decide (literal.sign = ['-']), literal.radix, literal.digits.map Digits.place⟩

/-- The characters of literals behind their signs. -/
def unsignedCharacters : Text :=
  "0123456789abcdefABCDEFxX".toList

theorem mem_unsignedCharacters {c : Char} (member : c ∈ literal.mark ++ literal.digits) :
    c ∈ unsignedCharacters := by
  have markCharacters : ∀ radix : Radix, ∀ mark ∈ radix.marks, ∀ c ∈ mark,
      c ∈ unsignedCharacters := by
    intro radix
    cases radix <;> decide
  have digitCharacters : ∀ radix : Radix, ∀ c ∈ radix.alphabet, c ∈ unsignedCharacters := by
    intro radix
    cases radix <;> decide
  rcases List.mem_append.1 member with inMark | inDigits
  · exact markCharacters _ _ literal.isMark c inMark
  · exact digitCharacters _ c (literal.areDigits c inDigits)

theorem isWord_text : Text.IsWord literal.text := by
  have solidSigns : ∀ sign ∈ signs, ∀ c ∈ sign, Text.isBlank c = false := by decide
  have solid : ∀ c ∈ unsignedCharacters, Text.isBlank c = false := by decide
  refine ⟨by simp [text, literal.hasDigits], ?_⟩
  intro c member
  rcases List.mem_append.1 member with inSign | inUnsigned
  · exact solidSigns _ literal.isSign c inSign
  · exact solid c (literal.mem_unsignedCharacters inUnsigned)

@[simp]
theorem value_numeral : literal.numeral.value = literal.value := by
  simp only [numeral, Numeral.value, Numeral.magnitude, Digits.number_eq_ofDigits, signed, value,
    magnitude, decide_eq_true_eq]

@[simp]
theorem magnitude_numeral : literal.numeral.magnitude = literal.magnitude :=
  Digits.number_eq_ofDigits _ _

/-- In range, a literal denotes the one word that is congruent to its value. -/
theorem denotes_iff (inRange : literal.InRange) (word : Word) :
    literal.Denotes word.toInt ↔ word = Word.ofInt literal.value := by
  constructor
  · intro denotes
    have same := (Word.ofInt_eq_ofInt_iff _ _).2 denotes.congruent
    rwa [Word.ofInt, BitVec.ofInt_toInt] at same
  · rintro rfl
    have lower := BitVec.le_toInt (Word.ofInt literal.value)
    have upper := BitVec.toInt_lt (x := Word.ofInt literal.value)
    refine ⟨lower, Int.le_sub_one_of_lt upper, Word.toInt_ofInt_modEq _, fun decimal => ?_⟩
    simp only [InRange, decimal] at inRange
    rw [Word.toInt_ofInt]
    exact Int.bmod_eq_of_le (by omega) (by omega)

/-- What becomes of a literal: its digits are converted if they may be, then the range counts. -/
theorem word_numeral_cases :
    (literal.IsConvertible ∧ literal.InRange ∧
      literal.numeral.word = .ok (Word.ofInt literal.value)) ∨
    (literal.IsConvertible ∧ ¬ literal.InRange ∧
      (literal.numeral.word = .error .outOfRange ∨ literal.numeral.word = .error .tooWide)) ∨
    (¬ literal.IsConvertible ∧
      literal.numeral.word = .error (.tooManyDigits literal.digits.length)) := by
  have number := literal.value_numeral
  have size := literal.magnitude_numeral
  have count : literal.numeral.digits.length = literal.digits.length := List.length_map ..
  have radix : literal.numeral.radix = literal.radix := rfl
  cases known : literal.radix with
  | decimal =>
      simp only [Numeral.word, IsConvertible, InRange, radix, known, number, count]
      split_ifs with long fits
      · exact .inr (.inr ⟨by simpa using long, rfl⟩)
      · refine .inl ⟨fun _ => Nat.not_lt.1 long, ?_, rfl⟩
        omega
      · refine .inr (.inl ⟨fun _ => Nat.not_lt.1 long, ?_, .inl rfl⟩)
        omega
  | _ =>
      have convertible : literal.IsConvertible := by simp [IsConvertible, known]
      simp only [Numeral.word, InRange, radix, known, number, size]
      split_ifs with fits
      · exact .inl ⟨convertible, by omega, rfl⟩
      · exact .inr (.inl ⟨convertible, by omega, .inr rfl⟩)

/-- A numeral is a word exactly if it can be converted and is in range. -/
theorem word_numeral_eq_ok_iff (word : Word) :
    literal.numeral.word = .ok word ↔
      literal.IsConvertible ∧ literal.InRange ∧ literal.Denotes word.toInt := by
  rcases literal.word_numeral_cases with
    ⟨convertible, inRange, result⟩ | ⟨_, outside, result | result⟩ | ⟨tooLong, result⟩
  · rw [result, literal.denotes_iff inRange, Except.ok.injEq]
    exact ⟨fun same => ⟨convertible, inRange, same.symm⟩, fun denoted => denoted.2.2.symm⟩
  · simp [result, outside]
  · simp [result, outside]
  · simp [result, tooLong]

theorem word_numeral_eq_tooManyDigits_iff (count : Nat) :
    literal.numeral.word = .error (.tooManyDigits count) ↔
      ¬ literal.IsConvertible ∧ literal.digits.length = count := by
  rcases literal.word_numeral_cases with
    ⟨convertible, _, result⟩ | ⟨convertible, _, result | result⟩ | ⟨tooLong, result⟩
  · simp [result, convertible]
  · simp [result, convertible]
  · simp [result, convertible]
  · simp [result, tooLong]

theorem inRange_iff_of_ne_decimal (notDecimal : literal.radix ≠ .decimal) :
    literal.InRange ↔ literal.magnitude ≤ 2 ^ 32 - 1 := by
  unfold InRange
  split
  · next decimal => exact absurd decimal notDecimal
  · rfl

/-- The digits that a number is written with make a literal without a sign. -/
theorem exists_eq_mark_toDigits {radix : Radix} {mark : Text} (isMark : mark ∈ radix.marks)
    (number : Nat) :
    ∃ literal : Literal, literal.text = mark ++ Nat.toDigits radix.base number ∧
      literal.radix = radix ∧ literal.magnitude = number ∧ literal.value = number := by
  have base : 1 < radix.base ∧ radix.base ≤ 16 := by
    cases radix <;> decide
  rcases Digits.read?_toDigits base.1 base.2 number with ⟨values, read, _, spelt⟩
  rcases Digits.read?_eq_some_iff.1 read with ⟨hasDigits, areDigits, rfl⟩
  rw [Digits.number_eq_ofDigits] at spelt
  exact ⟨⟨[], radix, mark, _, by decide, isMark, hasDigits, areDigits⟩, rfl, rfl, spelt,
    congrArg Int.ofNat spelt⟩

end Literal

namespace Numeral

/-- Every literal is read back from its own text. -/
theorem read?_text (literal : Literal) : read? literal.text = some literal.numeral := by
  have noneOfThem : ∀ c ∈ Literal.unsignedCharacters, c ≠ '-' ∧ c ≠ '+' := by decide
  have noSign : ∀ c ∈ literal.mark ++ literal.digits, c ≠ '-' ∧ c ≠ '+' :=
    fun c member => noneOfThem c (literal.mem_unsignedCharacters member)
  have digits : Digits.read? literal.radix.base literal.digits =
      some (literal.digits.map Digits.place) :=
    Digits.read?_eq_some_iff.2 ⟨literal.hasDigits, literal.areDigits, rfl⟩
  rw [read?, Text.trim_eq_self literal.isWord_text, Literal.text,
    splitSign_sign_append literal.isSign noSign]
  simp only [Radix.ofText_mark_append literal.isMark literal.areDigits, digits, Option.map_some]
  rfl

/-- The reader accepts the literals between blanks, and nothing else. -/
theorem read?_eq_some_iff {text : Text} {numeral : Numeral} :
    read? text = some numeral ↔
      ∃ literal : Literal, Text.trim text = literal.text ∧ literal.numeral = numeral := by
  constructor
  · intro read
    rcases signSplit : splitSign (Text.trim text) with ⟨negative, unsigned⟩
    rcases markSplit : Radix.ofText unsigned with ⟨radix, digits⟩
    simp only [read?, signSplit, markSplit, Option.map_eq_some_iff] at read
    rcases read with ⟨values, read, rfl⟩
    rcases exists_sign_of_splitSign signSplit with ⟨sign, isSign, signed, isMinus⟩
    rcases Radix.exists_mark_of_ofText markSplit with ⟨mark, isMark, rfl⟩
    rcases Digits.read?_eq_some_iff.1 read with ⟨hasDigits, areDigits, rfl⟩
    refine ⟨⟨sign, radix, mark, digits, isSign, isMark, hasDigits, areDigits⟩, signed, ?_⟩
    rw [Literal.numeral, isMinus]
  · rintro ⟨literal, spelt, rfl⟩
    have trimmed : read? text = read? literal.text := by
      rw [read?, read?, spelt, Text.trim_eq_self literal.isWord_text]
    rw [trimmed, read?_text]

theorem readWord_of_literal {text : Text} {literal : Literal}
    (spelt : Text.trim text = literal.text) : readWord text = literal.numeral.word := by
  simp only [readWord, read?_eq_some_iff.2 ⟨literal, spelt, rfl⟩]

/-- Every outcome but one is an outcome of the numeral of a literal. -/
theorem readWord_eq_iff {text : Text} {outcome : Except Fault Word}
    (known : outcome ≠ .error .malformed) :
    readWord text = outcome ↔
      ∃ literal : Literal, Text.trim text = literal.text ∧ literal.numeral.word = outcome := by
  constructor
  · intro read
    cases found : read? text with
    | none =>
        simp only [readWord, found] at read
        exact absurd read.symm known
    | some numeral =>
        rcases read?_eq_some_iff.1 found with ⟨literal, spelt, _⟩
        exact ⟨literal, spelt, by rw [← readWord_of_literal spelt, read]⟩
  · rintro ⟨literal, spelt, result⟩
    rw [readWord_of_literal spelt, result]

/-- The texts that spell a word are literals between blanks. -/
theorem readWord_eq_ok_iff {text : Text} {word : Word} :
    readWord text = .ok word ↔
      ∃ literal : Literal, Text.trim text = literal.text ∧ literal.IsConvertible ∧
        literal.InRange ∧ literal.Denotes word.toInt := by
  rw [readWord_eq_iff (by simp)]
  simp only [Literal.word_numeral_eq_ok_iff]

theorem readWord_eq_tooManyDigits_iff {text : Text} {count : Nat} :
    readWord text = .error (.tooManyDigits count) ↔
      ∃ literal : Literal, Text.trim text = literal.text ∧ ¬ literal.IsConvertible ∧
        literal.digits.length = count := by
  rw [readWord_eq_iff (by simp)]
  simp only [Literal.word_numeral_eq_tooManyDigits_iff]

/-- A word in decimal is read back as the word. -/
@[simp]
theorem readWord_ofInt (word : Word) : readWord (Text.ofInt word.toInt) = .ok word := by
  have spelt := word?_ofInt_toInt word
  rw [word?] at spelt
  cases read : readWord (Text.ofInt word.toInt) with
  | error fault => simp [read, Except.toOption] at spelt
  | ok other =>
      rw [read, Except.toOption, Option.some.injEq] at spelt
      rw [spelt]

/-- A bit pattern is read back from its digits in any radix but ten. -/
theorem readWord_mark_toDigits (radix : Radix) (notDecimal : radix ≠ .decimal) {mark : Text}
    (isMark : mark ∈ radix.marks) (word : Word) :
    readWord (mark ++ Nat.toDigits radix.base word.toNat) = .ok word := by
  rcases Literal.exists_eq_mark_toDigits isMark word.toNat with
    ⟨literal, spelt, rfl, magnitude, value⟩
  have small := word.isLt
  have inRange : literal.InRange := by
    rw [literal.inRange_iff_of_ne_decimal notDecimal, magnitude]
    omega
  have convertible : literal.IsConvertible := fun decimal => absurd decimal notDecimal
  have denoted : word = Word.ofInt literal.value := by
    rw [value, Word.ofInt, BitVec.ofInt_natCast, BitVec.ofNat_toNat, BitVec.setWidth_eq]
  rw [← spelt, readWord_eq_ok_iff]
  exact ⟨literal, Text.trim_eq_self literal.isWord_text, convertible, inRange,
    (literal.denotes_iff inRange word).2 denoted⟩

/-- Exactly the integer literals in range are read, as the words that they denote; only the limit of
the conversion comes before. Every signed word is read back from its decimal, its hexadecimal and
its binary spelling. -/
theorem literals_are_read_exactly :
    (∀ text word, readWord text = .ok word ↔
      ∃ literal : Literal, Text.trim text = literal.text ∧ literal.IsConvertible ∧
        literal.InRange ∧ literal.Denotes word.toInt) ∧
    (∀ text count, readWord text = .error (.tooManyDigits count) ↔
      ∃ literal : Literal, Text.trim text = literal.text ∧ ¬ literal.IsConvertible ∧
        literal.digits.length = count) ∧
    ∀ word : Word, readWord (Text.ofInt word.toInt) = .ok word ∧
      readWord ("0x".toList ++ Nat.toDigits 16 word.toNat) = .ok word ∧
      readWord ("0b".toList ++ Nat.toDigits 2 word.toNat) = .ok word := by
  refine ⟨fun text word => readWord_eq_ok_iff, fun text count => readWord_eq_tooManyDigits_iff,
    fun word => ⟨readWord_ofInt word, ?_, ?_⟩⟩
  · exact readWord_mark_toDigits .hexadecimal (by decide) (by decide) word
  · exact readWord_mark_toDigits .binary (by decide) (by decide) word

/-- A minus sign is undone by the wrap around of the least word. -/
example : readWord " -0X80000000\n".toList = .ok 0x80000000 := by
  rfl

end Numeral

end PseudoAsm
