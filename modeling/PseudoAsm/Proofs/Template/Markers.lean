import Mathlib.Tactic.IntervalCases
import PseudoAsm.Template.Basic

/-!
# Where markers start

A marker is read at the start of a text exactly where its own text stands there, with a position of
one digit from one to nine. At most one marker starts at a place, so the order in which the markers
are tried does not matter.
-/

namespace PseudoAsm

namespace Marker

/-- The positions that a marker can name. -/
def positions : List Nat :=
  [1, 2, 3, 4, 5, 6, 7, 8, 9]

/-- The markers that name a position. -/
def atPosition (position : Nat) : List Marker :=
  .operand position :: [Source.label, .value, .relative].flatMap fun source =>
    [.part source .high position, .part source .low position]

/-- The markers that templates are made with. -/
def all : List Marker :=
  .label :: positions.flatMap atPosition

theorem mem_positions_iff {position : Nat} :
    position ∈ positions ↔ 1 ≤ position ∧ position ≤ 9 := by
  simp only [positions, List.mem_cons, List.not_mem_nil, or_false]
  omega

/-- The markers at a position are those that name it. -/
theorem mem_atPosition_iff {marker : Marker} {position : Nat} :
    marker ∈ atPosition position ↔ marker.position? = some position := by
  cases marker with
  | operand other => simp [atPosition, position?, eq_comm]
  | part source half other => cases source <;> cases half <;> simp [atPosition, position?, eq_comm]
  | label => simp [atPosition, position?]

/-- All markers: the label marker and those that name a position. -/
theorem mem_all_iff {marker : Marker} :
    marker ∈ all ↔ marker = .label ∨ ∃ position ∈ positions, marker.position? = some position := by
  simp only [all, List.mem_cons, List.mem_flatMap, mem_atPosition_iff]

theorem ofNat_of_mem_positions {position : Nat} (member : position ∈ positions) :
    Text.ofNat position = [position.digitChar] :=
  Nat.toDigits_of_lt_base (Nat.lt_succ_of_le (mem_positions_iff.1 member).2)

theorem toNat_digitChar :
    ∀ position ∈ positions, position.digitChar.toNat = '0'.toNat + position := by
  decide

theorem leadingPosition?_digitChar {position : Nat} (member : position ∈ positions)
    (rest : Text) : leadingPosition? (position.digitChar :: rest) = some position := by
  simp only [positions, List.mem_cons, List.not_mem_nil, or_false] at member
  rcases member with rfl | rfl | rfl | rfl | rfl | rfl | rfl | rfl | rfl <;> rfl

theorem eq_digitChar_of_leadingPosition?_eq_some {c : Char} {rest : Text} {position : Nat}
    (read : leadingPosition? (c :: rest) = some position) :
    position ∈ positions ∧ c = position.digitChar := by
  simp only [leadingPosition?, Option.ite_none_right_eq_some, Option.some.injEq] at read
  rcases read with ⟨⟨lower, upper⟩, rfl⟩
  have fromOne : 49 ≤ c.toNat := lower
  have toNine : c.toNat ≤ 57 := upper
  have member : c.toNat - '0'.toNat ∈ positions := by
    rw [mem_positions_iff]
    change 1 ≤ c.toNat - 48 ∧ c.toNat - 48 ≤ 9
    omega
  refine ⟨member, Char.toNat_inj.1 ?_⟩
  rw [toNat_digitChar _ member]
  change c.toNat = 48 + (c.toNat - 48)
  omega

/-- The position is one digit, which stands before anything else. -/
theorem leadingPosition?_eq_some_iff {text : Text} {position : Nat} :
    leadingPosition? text = some position ↔
      position ∈ positions ∧ Text.ofNat position <+: text := by
  constructor
  · intro read
    cases text with
    | nil => simp [leadingPosition?] at read
    | cons c rest =>
        rcases eq_digitChar_of_leadingPosition?_eq_some read with ⟨member, rfl⟩
        refine ⟨member, ?_⟩
        rw [ofNat_of_mem_positions member]
        exact ⟨rest, rfl⟩
  · rintro ⟨member, rest, rfl⟩
    rw [ofNat_of_mem_positions member]
    exact leadingPosition?_digitChar member rest

/-- A marker that names a position is written with this position at its end. -/
theorem text_of_position?_eq_some {marker : Marker} {position : Nat}
    (numbered : marker.position? = some position) :
    marker.text = marker.letters ++ Text.ofNat position := by
  simp only [text, numbered]

theorem text_ne_nil (marker : Marker) : marker.text ≠ [] := by
  have letters : marker.letters ≠ [] := by
    cases marker with
    | operand position => exact List.cons_ne_nil _ _
    | part source half position => exact List.append_ne_nil_of_right_ne_nil _ (List.cons_ne_nil _ _)
    | label => exact List.cons_ne_nil _ _
  unfold text
  cases marker.position? with
  | none => exact letters
  | some position => exact List.append_ne_nil_of_left_ne_nil letters _

/-- Letters with a position behind them are a marker. -/
theorem mem_all_and_text_isPrefix {marker : Marker} {position : Nat} {rest : Text}
    (numbered : marker.position? = some position) (read : leadingPosition? rest = some position) :
    marker ∈ all ∧ marker.text <+: marker.letters ++ rest := by
  rcases leadingPosition?_eq_some_iff.1 read with ⟨member, digit⟩
  refine ⟨mem_all_iff.2 (.inr ⟨position, member, numbered⟩), ?_⟩
  rw [text_of_position?_eq_some numbered]
  exact (List.prefix_append_right_inj marker.letters).2 digit

/-- A marker is read exactly where its text stands. -/
theorem leading?_eq_some_iff {text : Text} {marker : Marker} :
    leading? text = some marker ↔ marker ∈ all ∧ marker.text <+: text := by
  constructor
  · intro read
    unfold leading? at read
    split at read
    case h_8 rest =>
        cases read
        exact ⟨mem_all_iff.2 (.inl rfl), rest, rfl⟩
    case h_9 => cases read
    all_goals
      rcases Option.map_eq_some_iff.1 read with ⟨position, digit, rfl⟩
      exact mem_all_and_text_isPrefix rfl digit
  · rintro ⟨member, rest, rfl⟩
    rcases mem_all_iff.1 member with rfl | ⟨position, member, numbered⟩
    · rfl
    · have read : leadingPosition? (Text.ofNat position ++ rest) = some position :=
        leadingPosition?_eq_some_iff.2 ⟨member, List.prefix_append _ _⟩
      rw [text_of_position?_eq_some numbered, List.append_assoc]
      cases marker with
      | operand other =>
          cases numbered
          exact congrArg (Option.map Marker.operand) read
      | part source half other =>
          cases numbered
          cases source <;> cases half <;> exact congrArg (Option.map (Marker.part _ _)) read
      | label => cases numbered

end Marker

end PseudoAsm
