import Mathlib.Order.WithBotTop
import Mathlib.Algebra.Order.Monoid.Unbundled.WithTop
import TraceWeave.Proofs.Binary64
import TraceWeave.Timeline.Merge

/-! Where numbers stand on the line of the rationals, and where events stand in time.

The line has an end on either side for the two infinities, and both zeros are at the same place of
it. What events are sorted by is their moment (`inOrder_eq_true_iff`), and it is below zero for the
times that make a merge move (`isNegative_iff_line`). -/

namespace TraceWeave

namespace Binary64

variable {x y : Binary64}

/-- What a finite number is; the others count as zero. -/
def value (x : Binary64) : ℚ := x.scaled / unitsPerOne

/-- The place of a number. A nan has none and counts as zero. -/
def line : Binary64 → WithBotTop ℚ
  | .finite negative m => (Binary64.finite negative m).value
  | .infinite true => ⊥
  | .infinite false => ⊤
  | .nan _ => 0

theorem value_mul_unitsPerOne (x : Binary64) : x.value * unitsPerOne = x.scaled :=
  div_mul_cancel₀ _ cast_unitsPerOne_pos.ne'

theorem value_le_value_iff : x.value ≤ y.value ↔ x.scaled ≤ y.scaled := by
  rw [value, value, div_le_div_iff_of_pos_right cast_unitsPerOne_pos, Int.cast_le]

theorem value_neg_iff : x.value < 0 ↔ x.scaled < 0 := by
  rw [value, div_lt_iff₀ cast_unitsPerOne_pos, zero_mul, Int.cast_lt_zero]

/-- Finite numbers are nearer to zero than the infinities. -/
theorem exists_edge : ∃ edge : Nat, (∀ s, (Binary64.infinite s).position = signed s edge) ∧
    ∀ s m, (Binary64.finite s m).position.natAbs < edge := by
  refine ⟨Nat.pow 2 2098, fun _ => rfl, fun s m => ?_⟩
  -- the exponents are variables, so that nothing evaluates the powers
  obtain ⟨e, last⟩ : ∃ e, 2045 = e := ⟨_, rfl⟩
  have edge : 2098 = 53 + e := by omega
  have exponent : m.exponent ≤ e := last ▸ m.exponent_le
  have digits := m.significand_lt
  have size : (Binary64.finite s m).position.natAbs = m.units := by
    cases s with
    | false => exact Int.natAbs_natCast _
    | true => exact (Int.natAbs_neg _).trans (Int.natAbs_natCast _)
  rw [size, edge, Magnitude.units]
  simp only [Nat.pow_eq] at digits ⊢
  calc m.significand * 2 ^ m.exponent < 2 ^ 53 * 2 ^ m.exponent :=
        Nat.mul_lt_mul_of_pos_right digits (Nat.two_pow_pos _)
    _ ≤ 2 ^ 53 * 2 ^ e := Nat.mul_le_mul_left _ (Nat.pow_le_pow_right (by decide) exponent)
    _ = 2 ^ (53 + e) := (pow_add 2 53 e).symm

/-- The places on the line are those that numbers are compared by. -/
theorem line_le_line_iff (hx : x.isNaN = false) (hy : y.isNaN = false) :
    x.line ≤ y.line ↔ x.position ≤ y.position := by
  obtain ⟨edge, infinity, inside⟩ := exists_edge
  cases x with
  | nan => cases hx
  | finite s m =>
    have := inside s m
    cases y with
    | nan => cases hy
    | finite t n =>
      simp only [line, WithBotTop.coe_le_coe, value_le_value_iff]
      rfl
    | infinite t =>
      rw [infinity]
      cases t <;> simp [line] <;> omega
  | infinite s =>
    rw [infinity]
    cases y with
    | nan => cases hy
    | finite t n =>
      have := inside t n
      cases s <;> simp [line] <;> omega
    | infinite t =>
      rw [infinity]
      have := inside true .zero
      cases s <;> cases t <;> simp [line]
      omega

theorem line_lt_line_iff (hx : x.isNaN = false) (hy : y.isNaN = false) :
    x.line < y.line ↔ x.position < y.position := by
  rw [← not_le, line_le_line_iff hy hx, not_le]

theorem line_zero : Binary64.zero.line = 0 := by
  have none : Binary64.zero.value = 0 := by
    rw [value, show Binary64.zero.scaled = 0 from rfl, Int.cast_zero, zero_div]
  exact congrArg WithBotTop.coe none

theorem isNegative_iff_line (h : x.isNaN = false) : x.isNegative = true ↔ x.line < 0 := by
  rw [isNegative_iff_position h, ← line_zero, line_lt_line_iff h rfl]
  rfl

end Binary64

namespace Event

variable {a b event : Event}

/-- The time of an event, zero for the name of a thread. -/
def key : Event → Binary64
  | .span _ _ _ start _ => start
  | .sample _ _ _ time _ => time
  | .threadName .. => .zero

def moment (event : Event) : WithBotTop ℚ := event.key.line

theorem key_eq_sortTime (event : Event) : event.key = MergedTimeline.sortTime event := by
  cases event <;> rfl

theorem key_eq_of_time? {time : Binary64} (h : event.time? = some time) : event.key = time := by
  cases event <;> cases h <;> rfl

theorem moment_le_iff (ha : a.key.isNaN = false) (hb : b.key.isNaN = false) :
    a.moment ≤ b.moment ↔ a.key.position ≤ b.key.position :=
  Binary64.line_le_line_iff ha hb

theorem isNegative_iff_moment (h : event.key.isNaN = false) :
    (∃ time, event.time? = some time ∧ time.isNegative = true) ↔ event.moment < 0 := by
  rw [moment, ← Binary64.isNegative_iff_line h]
  cases event with
  | span => simp [time?, key]
  | sample => simp [time?, key]
  | threadName => simp [time?, key, Binary64.isNegative, Binary64.lt]

end Event

end TraceWeave
