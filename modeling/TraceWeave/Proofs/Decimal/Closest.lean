import Mathlib.Algebra.Order.Ring.Abs
import Mathlib.Tactic.Linarith
import Mathlib.Tactic.Positivity
import TraceWeave.Proofs.Decimal.Grammar
import TraceWeave.Proofs.Decimal.Nearest

/-! Reading a decimal gives the binary64 number closest to its value.

`Closest` says of a magnitude that no other one is closer, and of two equally close that it has the
even significand. It has a neighbour on either side, and the points halfway to them are the ends of
the interval that it covers (`Closest.covers`). So a numeral is read as the closest magnitude with
its sign (`readFinite?_of_closest`). -/

namespace TraceWeave

open Binary64

namespace Magnitude

variable {m : Magnitude} {q : ℚ} {num den : Nat}

def value (m : Magnitude) : ℚ := m.units / unitsPerOne

theorem value_mul_unitsPerOne (m : Magnitude) : m.value * unitsPerOne = m.units :=
  div_mul_cancel₀ _ cast_unitsPerOne_pos.ne'

/-- Half of a last place above the largest magnitude. Numbers round to infinity from here on. -/
def limit : ℚ := 2 ^ 1024 - 2 ^ 970

/-- A number rounds to the magnitude: to the closest one, of two to that with the even
significand. -/
structure Closest (m : Magnitude) (q : ℚ) : Prop where
  lt_limit : q < limit
  le : ∀ other : Magnitude, |q - m.value| ≤ |q - other.value|
  even : ∀ other : Magnitude, other ≠ m → |q - m.value| = |q - other.value| →
    m.significand % 2 = 0

/-! ### Neighbours -/

/-- The upper end is halfway to the next magnitude, if there is one. -/
theorem exists_next (m : Magnitude) :
    (∃ other : Magnitude, m.units < other.units ∧ m.high = 2 * (m.units + other.units)) ∨
      m.exponent = 2045 ∧ m.high = (2 ^ 55 - 2) * 2 ^ m.exponent := by
  have step : 0 < 2 ^ m.exponent := Nat.two_pow_pos _
  have digits := m.significand_lt
  have normal := m.normal
  simp only [high, units, Nat.pow_eq] at digits normal ⊢
  rcases Nat.lt_or_ge (m.significand + 1) (2 ^ 53) with more | full
  · obtain ⟨other, -, next⟩ := mk?_eq_some more m.exponent_le (by omega)
    rw [Nat.succ_mul m.significand, units, Nat.pow_eq] at next
    exact .inl ⟨other, by omega, by omega⟩
  · have top : m.significand = 2 ^ 53 - 1 := by omega
    rcases Nat.lt_or_ge m.exponent 2045 with lower | last
    · obtain ⟨other, -, next⟩ := mk?_eq_some (s := 2 ^ 52) (e := m.exponent + 1) (by decide) lower
        (.inr (Nat.le_refl _))
      rw [Nat.pow_succ, units, Nat.pow_eq] at next
      rw [top]
      exact .inl ⟨other, by omega, by omega⟩
    · refine .inr ⟨Nat.le_antisymm m.exponent_le last, ?_⟩
      rw [top]
      omega

theorem low_of_power (h : m.significand = 2 ^ 52 ∧ m.exponent ≠ 0) :
    m.low = 4 * m.units - 2 ^ m.exponent := if_pos h

theorem low_of_not_power (h : ¬ (m.significand = 2 ^ 52 ∧ m.exponent ≠ 0)) :
    m.low = 4 * m.units - 2 * 2 ^ m.exponent := if_neg h

/-- The lower end is halfway to the magnitude before. -/
theorem exists_previous (nonzero : m.significand ≠ 0) :
    ∃ other : Magnitude, other.units < m.units ∧ m.low = 2 * (other.units + m.units) := by
  have step : 0 < 2 ^ m.exponent := Nat.two_pow_pos _
  have digits := m.significand_lt
  have bound := m.exponent_le
  have normal := m.normal
  simp only [Nat.pow_eq] at digits normal
  by_cases power : m.significand = 2 ^ 52 ∧ m.exponent ≠ 0
  · obtain ⟨e, he⟩ : ∃ e, m.exponent = e + 1 := ⟨m.exponent - 1, by omega⟩
    obtain ⟨other, -, previous⟩ := mk?_eq_some (s := 2 ^ 53 - 1) (e := e) (by decide) (by omega)
      (.inr (by decide))
    have less : 0 < 2 ^ e := Nat.two_pow_pos _
    refine ⟨other, ?_⟩
    rw [low_of_power power]
    simp only [units, Nat.pow_eq, he, Nat.pow_succ _ e, power.1] at previous ⊢
    omega
  · obtain ⟨s, hs⟩ : ∃ s, m.significand = s + 1 := ⟨m.significand - 1, by omega⟩
    obtain ⟨other, -, previous⟩ := mk?_eq_some (s := s) (e := m.exponent) (by omega) bound (by omega)
    refine ⟨other, ?_⟩
    rw [low_of_not_power power]
    simp only [units, Nat.pow_eq, hs, Nat.succ_mul s] at previous ⊢
    omega

/-! ### Halfway points -/

section

variable {x u v : ℚ}

/-- What is no farther from `u` than from a larger number is not beyond the middle. -/
theorem two_mul_le_of_abs_le (lt : u < v) (h : |x - u| ≤ |x - v|) : 2 * x ≤ u + v := by
  by_contra beyond
  rw [abs_of_pos (show 0 < x - u by linarith)] at h
  rcases abs_cases (x - v) with ⟨eq, -⟩ | ⟨eq, -⟩ <;> linarith

theorem le_two_mul_of_abs_le (lt : v < u) (h : |x - u| ≤ |x - v|) : v + u ≤ 2 * x := by
  by_contra beyond
  rw [abs_of_neg (show x - u < 0 by linarith)] at h
  rcases abs_cases (x - v) with ⟨eq, -⟩ | ⟨eq, -⟩ <;> linarith

theorem abs_eq_of_middle (h : 2 * x = u + v) : |x - u| = |x - v| := by
  rw [show x - u = -(x - v) by linarith, abs_neg]

end

theorem two_pow_limit {a b c d : Nat} (h : d = 54 + b) (exponents : b + 1 + a = c) :
    4 * ((2 : ℚ) ^ d - 2 ^ b) * 2 ^ a = (2 ^ 55 - 2) * 2 ^ c := by
  calc 4 * ((2 : ℚ) ^ d - 2 ^ b) * 2 ^ a = (2 ^ 55 - 2) * (2 * 2 ^ b * 2 ^ a) := by
        rw [h, pow_add]; ring
    _ = (2 ^ 55 - 2) * 2 ^ c := by rw [← pow_succ', ← pow_add, exponents]

theorem limit_mul_unitsPerOne : 4 * limit * unitsPerOne = (2 ^ 55 - 2) * 2 ^ 2045 := by
  have one : ((unitsPerOne : Nat) : ℚ) = 2 ^ 1074 := by
    rw [unitsPerOne_eq rfl, Nat.cast_pow, Nat.cast_ofNat]
  rw [limit, one]
  exact two_pow_limit rfl rfl

section

variable (h : m.Closest q) {other : Magnitude}

include h

theorem Closest.le_units (other : Magnitude) :
    |q * unitsPerOne - m.units| ≤ |q * unitsPerOne - other.units| := by
  have scaled (n : Magnitude) : q * unitsPerOne - n.units = (q - n.value) * unitsPerOne := by
    rw [sub_mul, value_mul_unitsPerOne]
  rw [scaled, scaled, abs_mul, abs_mul]
  exact mul_le_mul_of_nonneg_right (h.le other) (abs_nonneg _)

/-- Only an even significand reaches the middle between two magnitudes. -/
theorem Closest.even_of_middle (apart : m.units ≠ other.units)
    (middle : 2 * (q * unitsPerOne) = m.units + other.units) : m.significand % 2 = 0 := by
  refine h.even other (fun same => apart (by rw [same])) (abs_eq_of_middle ?_)
  rw [value, value, ← add_div, eq_div_iff cast_unitsPerOne_pos.ne', ← middle, mul_assoc]

theorem Closest.le_high : 4 * (q * unitsPerOne) ≤ m.high ∧
    (4 * (q * unitsPerOne) = m.high → m.significand % 2 = 0) := by
  rcases exists_next m with ⟨other, next, high⟩ | ⟨last, high⟩
  · have middle := two_mul_le_of_abs_le (Nat.cast_lt.mpr next) (h.le_units other)
    rw [high]
    push_cast
    refine ⟨by linarith, fun tie => h.even_of_middle next.ne ?_⟩
    linarith
  · have below : 4 * q * unitsPerOne < 4 * limit * unitsPerOne := by
      have := h.lt_limit
      exact mul_lt_mul_of_pos_right (by linarith) cast_unitsPerOne_pos
    have digits : ((2 ^ 55 - 2 : Nat) : ℚ) = 2 ^ 55 - 2 := by norm_num
    rw [limit_mul_unitsPerOne, ← last, mul_assoc] at below
    rw [high, Nat.cast_mul, digits, Nat.cast_pow, Nat.cast_ofNat]
    exact ⟨below.le, fun tie => absurd tie below.ne⟩

theorem Closest.low_le (nonzero : m.significand ≠ 0) : m.low ≤ 4 * (q * unitsPerOne) ∧
    (4 * (q * unitsPerOne) = m.low → m.significand % 2 = 0) := by
  obtain ⟨other, previous, low⟩ := exists_previous nonzero
  have middle := le_two_mul_of_abs_le (Nat.cast_lt.mpr previous) (h.le_units other)
  rw [low]
  push_cast
  refine ⟨by linarith, fun tie => h.even_of_middle previous.ne' ?_⟩
  linarith

end

/-- A number that rounds to a magnitude lies in its interval. -/
theorem Closest.covers (h : m.Closest q) (pos : 0 < den) (ratio : q * unitsPerOne * den = num) :
    m.Covers num den := by
  have den_pos : (0 : ℚ) < den := Nat.cast_pos.mpr pos
  have quarters : 4 * (q * unitsPerOne) * den = (4 * num : Nat) := by
    rw [mul_assoc, ratio, Nat.cast_mul, Nat.cast_ofNat]
  -- an end of the interval is met exactly when the quotient is met
  have met {e : Nat} (tie : e * den = 4 * num) : 4 * (q * unitsPerOne) = e := by
    refine mul_right_cancel₀ den_pos.ne' ?_
    rw [quarters, ← tie, Nat.cast_mul]
  obtain ⟨top, topEven⟩ := h.le_high
  have le_high : 4 * num ≤ m.high * den := by
    have := mul_le_mul_of_nonneg_right top den_pos.le
    rw [quarters] at this
    exact_mod_cast this
  by_cases nonzero : m.significand = 0
  · obtain rfl := eq_zero nonzero
    exact ⟨by rw [show zero.low = 0 from rfl, Nat.zero_mul]; exact Nat.zero_le _, le_high,
      fun odd => absurd odd (by decide)⟩
  · obtain ⟨bottom, bottomEven⟩ := h.low_le nonzero
    have low_le : m.low * den ≤ 4 * num := by
      have := mul_le_mul_of_nonneg_right bottom den_pos.le
      rw [quarters] at this
      exact_mod_cast this
    refine ⟨low_le, le_high, fun odd => ⟨?_, ?_⟩⟩
    · refine Nat.lt_of_le_of_ne low_le fun tie => ?_
      have := bottomEven (met tie)
      omega
    · refine Nat.lt_of_le_of_ne le_high fun tie => ?_
      have := topEven (met tie.symm)
      omega

end Magnitude

namespace Numeral

theorem size_mul_unitsPerOne (n : Numeral) :
    n.size * unitsPerOne * (10 ^ (-n.exponent).toNat : Nat) =
      (n.coefficient * 10 ^ n.exponent.toNat * unitsPerOne : Nat) := by
  have power : (10 : ℚ) ^ n.exponent * 10 ^ (-n.exponent).toNat = 10 ^ n.exponent.toNat := by
    rw [← zpow_natCast, ← zpow_natCast, ← zpow_add₀ (by norm_num)]
    congr 1
    omega
  rw [size]
  push_cast
  rw [← power]
  ring

theorem nearest_of_closest {n : Numeral} {m : Magnitude} (h : m.Closest n.size) :
    n.nearest = .finite n.negative m :=
  nearest_of_owns (Magnitude.owns_iff.mpr
    (h.covers (Magnitude.ten_pow_pos _) n.size_mul_unitsPerOne))

end Numeral

/-- A text that writes a number is read as the closest magnitude with the sign of the text. -/
theorem Binary64.readFinite?_of_closest {text : List Char} {negative : Bool} {q : ℚ}
    {m : Magnitude} (written : Numeral.Writes text negative q) (h : m.Closest q) :
    readFinite? text = some (.finite negative m) := by
  obtain ⟨n, read, rfl, rfl⟩ := Numeral.read?_of_writes written
  simp [readFinite?, read, Numeral.nearest_of_closest h, isFinite]

end TraceWeave
