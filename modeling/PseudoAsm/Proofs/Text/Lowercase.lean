import Mathlib.Tactic.IntervalCases
import PseudoAsm.Proofs.Text.Words
import PseudoAsm.Text.Lowercase

/-!
# Lower case does not depend on case

Lower case of a letter depends on its surroundings when it is a sigma, so texts cannot be compared
letter by letter at first. But a basic Latin capital counts as its small letter does: both have
case, neither is overlooked, and neither is a sigma. Hence texts that differ only in the case of
basic Latin letters have the same lower case.

Nor does it matter how often a text is lowered. No small letter is a capital of some other letter:
the small letters of a run of capitals lie outside all runs, or between the capitals of one whose
capitals are two apart.
-/

namespace PseudoAsm.Text

/-- The capitals of the Latin alphabet. -/
def latinCapitals : Text := "ABCDEFGHIJKLMNOPQRSTUVWXYZ".toList

theorem toLower_eq_self_or_mem_latinCapitals (c : Char) : c.toLower = c ∨ c ∈ latinCapitals := by
  by_cases capital : 'A'.val ≤ c.val ∧ c.val ≤ 'Z'.val
  · right
    have lower : 65 ≤ c.toNat := UInt32.le_iff_toNat_le.1 capital.1
    have upper : c.toNat ≤ 90 := UInt32.le_iff_toNat_le.1 capital.2
    rw [← Char.ofNat_toNat c]
    generalize c.toNat = code at lower upper
    interval_cases code <;> decide
  · left
    exact dif_neg capital

/-- A small letter counts as its capital wherever lower case looks at it. -/
structure SameCasing (c small : Char) : Prop where
  ignorable : isCaseIgnorable small = isCaseIgnorable c
  cased : inRanges small.toNat casedRanges = inRanges c.toNat casedRanges
  sigma : (small == 'Σ') = (c == 'Σ')
  lowercase : lowercaseCharacter small = lowercaseCharacter c

theorem sameCasing_toLower (c : Char) : SameCasing c c.toLower := by
  have ofCapital : ∀ c ∈ latinCapitals, isCaseIgnorable c.toLower = isCaseIgnorable c ∧
      inRanges c.toLower.toNat casedRanges = inRanges c.toNat casedRanges ∧
      (c.toLower == 'Σ') = (c == 'Σ') ∧ lowercaseCharacter c.toLower = lowercaseCharacter c := by
    decide +kernel
  rcases toLower_eq_self_or_mem_latinCapitals c with same | capital
  · rw [same]
    exact ⟨rfl, rfl, rfl, rfl⟩
  · rcases ofCapital c capital with ⟨ignorable, cased, sigma, lowercase⟩
    exact ⟨ignorable, cased, sigma, lowercase⟩

theorem startsCased_map_toLower (text : Text) :
    startsCased (text.map Char.toLower) = startsCased text := by
  have ignorable : isCaseIgnorable ∘ Char.toLower = isCaseIgnorable :=
    funext fun c => (sameCasing_toLower c).ignorable
  unfold startsCased
  rw [List.dropWhile_map, ignorable]
  cases text.dropWhile isCaseIgnorable with
  | nil => rfl
  | cons c rest => exact (sameCasing_toLower c).cased

theorem lowercaseAfter_map_toLower (casedBefore : Bool) (text : Text) :
    lowercaseAfter casedBefore (text.map Char.toLower) = lowercaseAfter casedBefore text := by
  induction text generalizing casedBefore with
  | nil => rfl
  | cons c rest ih =>
      rcases sameCasing_toLower c with ⟨ignorable, cased, sigma, lowercase⟩
      simp only [List.map_cons, lowercaseAfter, startsCased_map_toLower, ignorable, cased, sigma,
        lowercase, ih]

/-- Texts that differ in the case of Latin letters only are the same in lower case. -/
theorem lowercase_eq_of_map_toLower_eq {text other : Text}
    (same : text.map Char.toLower = other.map Char.toLower) : lowercase text = lowercase other := by
  rw [lowercase, lowercase, ← lowercaseAfter_map_toLower, same, lowercaseAfter_map_toLower]

namespace CaseRun

/-- Whether a run has a small letter at a code point. -/
def HasSmall (run : CaseRun) (code : Nat) : Prop :=
  ∃ distance ≤ run.last - run.first, distance % run.stride = 0 ∧ code = run.small + distance

/-- Whether the small letters of a run fall between the capitals of another one. -/
def interleaves (run other : CaseRun) : Bool :=
  other.stride == 2 && (run.stride == 2 || run.first == run.last) &&
    Nat.ble other.first run.small && (run.small - other.first) % 2 == 1

/-- Whether no small letter of a run is a capital of other runs, which come in increasing order. -/
def isClearOf (run : CaseRun) : List CaseRun → Bool
  | [] => true
  | other :: others =>
    Nat.blt (run.small + (run.last - run.first)) other.first ||
      (Nat.blt other.last run.small || run.interleaves other) && run.isClearOf others

theorem mod_ne_zero_of_interleaves {run other : CaseRun} {code : Nat} (small : run.HasSmall code)
    (between : run.interleaves other = true) : (code - other.first) % other.stride ≠ 0 := by
  rcases small with ⟨distance, within, steps, rfl⟩
  simp only [interleaves, Bool.and_eq_true, Bool.or_eq_true, beq_iff_eq, Nat.ble_eq] at between
  rcases between with ⟨⟨⟨two, even⟩, after⟩, odd⟩
  have distanceEven : distance % 2 = 0 := by
    rcases even with stride | single
    · rw [← steps, stride]
    · omega
  rw [two]
  omega

theorem smallLetter_of_isClearOf {run : CaseRun} {code : Nat} (small : run.HasSmall code)
    {others : List CaseRun} (clear : run.isClearOf others = true) :
    smallLetter code others = code := by
  induction others with
  | nil => rfl
  | cons other others ih =>
      rw [isClearOf, Bool.or_eq_true, Bool.and_eq_true, Bool.or_eq_true, Nat.blt_eq,
        Nat.blt_eq] at clear
      have later : ¬ code < other.first → smallLetter code others = code := by
        intro notBefore
        rcases clear with before | ⟨_, clearLater⟩
        · rcases small with ⟨distance, within, _, rfl⟩
          omega
        · exact ih clearLater
      have noCapital : ¬ code < other.first → code ≤ other.last →
          (code - other.first) % other.stride ≠ 0 := by
        intro notBefore within
        rcases clear with before | ⟨after | between, _⟩
        · rcases small with ⟨distance, near, _, rfl⟩
          omega
        · rcases small with ⟨distance, near, _, rfl⟩
          omega
        · exact mod_ne_zero_of_interleaves small between
      rw [smallLetter]
      split_ifs with before within capital
      · rfl
      · exact absurd (beq_iff_eq.1 capital) (noCapital before within)
      · rfl
      · exact later before

end CaseRun

theorem smallLetter_eq_self_or_hasSmall (code : Nat) (runs : List CaseRun) :
    smallLetter code runs = code ∨ ∃ run ∈ runs, run.HasSmall (smallLetter code runs) := by
  induction runs with
  | nil => exact .inl rfl
  | cons run runs ih =>
      rw [smallLetter]
      split_ifs with before within capital
      · exact .inl rfl
      · refine .inr ⟨run, List.mem_cons_self, code - run.first, ?_, by simpa using capital, rfl⟩
        omega
      · exact .inl rfl
      · rcases ih with same | ⟨other, member, small⟩
        · exact .inl same
        · exact .inr ⟨other, List.mem_cons_of_mem _ member, small⟩

/-- The small letters are no capitals, and the dotted capital I is not one of them. -/
theorem isClearOf_of_mem_caseRuns : ∀ run ∈ caseRuns, run.isClearOf caseRuns = true ∧
    (Nat.blt (run.small + (run.last - run.first)) 0x130 || Nat.blt 0x130 run.small) = true := by
  decide +kernel

/-- A character that is its own lower case, wherever it stands. -/
structure IsSmall (c : Char) : Prop where
  notSigma : c ≠ 'Σ'
  unchanged : lowercaseCharacter c = [c]

theorem isSmall_of_smallLetter {c : Char} (notDotted : c ≠ '\u0130')
    (unchanged : smallLetter c.toNat caseRuns = c.toNat) : IsSmall c := by
  refine ⟨?_, ?_⟩
  · rintro rfl
    exact absurd unchanged (by decide +kernel)
  · rw [lowercaseCharacter, if_neg (by simpa using notDotted), unchanged, Char.ofNat_toNat]

theorem isSmall_ofNat {code : Nat} (notDotted : code ≠ 0x130)
    (unchanged : smallLetter code caseRuns = code) : IsSmall (Char.ofNat code) := by
  by_cases valid : code.isValidChar
  · have same : (Char.ofNat code).toNat = code := by
      rw [Char.ofNat, dif_pos valid]
      rfl
    apply isSmall_of_smallLetter
    · intro dotted
      rw [dotted] at same
      exact notDotted same.symm
    · rw [same, unchanged]
  · rw [Char.ofNat, dif_neg valid]
    exact isSmall_of_smallLetter (by decide) (by decide)

theorem isSmall_of_mem_lowercaseCharacter {c small : Char} (member : small ∈ lowercaseCharacter c) :
    IsSmall small := by
  unfold lowercaseCharacter at member
  split at member
  · simp only [List.mem_cons, List.not_mem_nil, or_false] at member
    rcases member with rfl | rfl
    · exact isSmall_of_smallLetter (by decide) (by decide +kernel)
    · exact isSmall_of_smallLetter (by decide) (by decide +kernel)
  · next notDotted =>
      rw [List.mem_singleton] at member
      subst member
      rcases smallLetter_eq_self_or_hasSmall c.toNat caseRuns with same | ⟨run, inRuns, small⟩
      · rw [same, Char.ofNat_toNat]
        exact isSmall_of_smallLetter (by simpa using notDotted) same
      · rcases isClearOf_of_mem_caseRuns run inRuns with ⟨clear, notDotted⟩
        apply isSmall_ofNat
        · rcases small with ⟨distance, near, _, sum⟩
          simp only [Bool.or_eq_true, Nat.blt_eq] at notDotted
          omega
        · exact CaseRun.smallLetter_of_isClearOf small clear

/-- Every character of a text in lower case is in lower case. -/
theorem isSmall_of_mem_lowercaseAfter {casedBefore : Bool} {text : Text} {small : Char}
    (member : small ∈ lowercaseAfter casedBefore text) : IsSmall small := by
  induction text generalizing casedBefore with
  | nil => cases member
  | cons c text ih =>
      rw [lowercaseAfter, List.mem_append] at member
      rcases member with here | later
      · split_ifs at here
        · rw [List.mem_singleton.1 here]
          exact isSmall_of_smallLetter (by decide) (by decide +kernel)
        · rw [List.mem_singleton.1 here]
          exact isSmall_of_smallLetter (by decide) (by decide +kernel)
        · exact isSmall_of_mem_lowercaseCharacter here
      · exact ih later

/-- Characters in lower case are left alone. -/
theorem lowercaseAfter_of_forall_isSmall {casedBefore : Bool} {text : Text}
    (small : ∀ c ∈ text, IsSmall c) : lowercaseAfter casedBefore text = text := by
  induction text generalizing casedBefore with
  | nil => rfl
  | cons c text ih =>
      rcases List.forall_mem_cons.1 small with ⟨first, later⟩
      simp [lowercaseAfter, first.notSigma, first.unchanged, ih later]

/-- Lower case has nothing left to lower. -/
theorem lowercase_lowercase (text : Text) : lowercase (lowercase text) = lowercase text :=
  lowercaseAfter_of_forall_isSmall fun _ member => isSmall_of_mem_lowercaseAfter member

end PseudoAsm.Text
