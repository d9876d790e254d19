import TraceWeave.Decimal.Nearest
import TraceWeave.Decimal.Shortest
import TraceWeave.Proofs.Binary64

/-! Reading numerals back. A magnitude has an interval around it, and every numeral in this interval
is read as the magnitude (`Numeral.nearest_of_owns`).

`Covers` is the interval for quotients of units, `owns` for decimals. Neither depends on how the
quotient or the decimal is written. -/

namespace TraceWeave

namespace Magnitude

open Rounding Binary64

variable {m : Magnitude} {num den num' den' : Nat}

/-- `num / den` units lie between the ends of the interval of `m`, and at an end only if the
significand is even. -/
structure Covers (m : Magnitude) (num den : Nat) : Prop where
  low_le : m.low * den ≤ 4 * num
  le_high : 4 * num ≤ m.high * den
  inside : m.significand % 2 = 1 → m.low * den < 4 * num ∧ 4 * num < m.high * den

def place (m : Magnitude) (den : Nat) : Nat := den * 2 ^ m.exponent

theorem place_pos (m : Magnitude) (h : 0 < den) : 0 < m.place den :=
  Nat.mul_pos h (Nat.two_pow_pos _)

/-- The upper end is half of a last place above the magnitude. -/
theorem high_mul (m : Magnitude) (den : Nat) :
    m.high * den = 4 * (m.significand * m.place den) + 2 * m.place den := by
  simp only [high, units, place, Nat.pow_eq]; ring

theorem mul_units_le (den : Nat) {k : Nat} (step : 4 * m.units ≤ m.low + k * 2 ^ m.exponent) :
    4 * (m.significand * m.place den) ≤ m.low * den + k * m.place den :=
  calc 4 * (m.significand * m.place den) = 4 * m.units * den := by
        simp only [units, place, Nat.pow_eq]; ring
    _ ≤ (m.low + k * 2 ^ m.exponent) * den := Nat.mul_le_mul_right _ step
    _ = m.low * den + k * m.place den := by unfold place; ring

/-- The lower end is at most half of a last place below the magnitude. -/
theorem le_low_mul (m : Magnitude) (den : Nat) :
    4 * (m.significand * m.place den) ≤ m.low * den + 2 * m.place den := by
  refine mul_units_le den ?_
  unfold low
  simp only [Nat.pow_eq]
  split <;> omega

/-- Below a power of two it is a quarter. -/
theorem le_low_mul_of_power (den : Nat) (h : m.significand = 2 ^ 52) (h' : m.exponent ≠ 0) :
    4 * (m.significand * m.place den) ≤ m.low * den + 1 * m.place den := by
  refine mul_units_le den ?_
  unfold low
  rw [if_pos ⟨h, h'⟩]
  simp only [Nat.pow_eq]
  omega

theorem eq_zero (h : m.significand = 0) : m = zero := by
  obtain ⟨s, e, lt, le, normal⟩ := m
  obtain rfl : s = 0 := h
  obtain rfl : e = 0 := normal.resolve_right (by decide)
  rfl

theorem mk?_self (m : Magnitude) : mk? m.significand m.exponent = some m :=
  dif_pos ⟨m.significand_lt, m.exponent_le, m.normal⟩

/-- With the right last place, a covered quotient rounds to the significand. -/
theorem Covers.halfEven_eq (h : m.Covers num den) (pos : 0 < den) :
    halfEven num (m.place den) = m.significand := by
  have top := h.le_high
  have bottom := h.low_le
  have reach := le_low_mul m den
  rw [high_mul] at top
  rcases Nat.mod_two_eq_zero_or_one m.significand with even | odd
  · exact halfEven_eq_of_even (place_pos m pos) even (by omega) (by omega)
  · obtain ⟨above, below⟩ := h.inside odd
    rw [high_mul] at below
    exact Rounding.halfEven_eq (by omega) (by omega)

theorem Covers.lastPlace_le (h : m.Covers num den) (pos : 0 < den) :
    lastPlace num den ≤ m.exponent := by
  rw [lastPlace_le_iff pos]
  have top := h.le_high
  have digits : m.significand * m.place den ≤ (2 ^ 53 - 1) * m.place den :=
    Nat.mul_le_mul_right _ (Nat.le_sub_one_of_lt m.significand_lt)
  have step := place_pos m pos
  rw [high_mul] at top
  calc num < 2 ^ 53 * m.place den := by omega
    _ = 2 ^ (m.exponent + 53) * den := by unfold place; ring

theorem nearest?_eq_of_lastPlace (h : m.Covers num den) (pos : 0 < den)
    (same : lastPlace num den = m.exponent) : nearest? num den = some m := by
  have digits : significandOf num den = m.significand := by
    rw [significandOf, same]
    exact h.halfEven_eq pos
  have short : m.significand ≠ 2 ^ 53 := Nat.ne_of_lt m.significand_lt
  rw [nearest?_eq_ite, digits, same, if_neg short, mk?_self]

/-- Just below a power of two the last place is smaller, and the rounding carries. -/
theorem nearest?_eq_of_lastPlace_lt (h : m.Covers num den) (pos : 0 < den)
    (lower : lastPlace num den < m.exponent) : nearest? num den = some m := by
  obtain ⟨e, he⟩ : ∃ e, m.exponent = e + 1 := ⟨m.exponent - 1, by omega⟩
  have twice : m.place den = 2 * (den * 2 ^ e) := by rw [place, he]; ring
  have step : 0 < den * 2 ^ e := Nat.mul_pos pos (Nat.two_pow_pos e)
  have below : num < 2 ^ 53 * (den * 2 ^ e) := by
    have := (lastPlace_le_iff pos).mp (show lastPlace num den ≤ e by omega)
    convert this using 1; ring
  have bottom := h.low_le
  have power : m.significand = 2 ^ 52 := by
    have least : 2 ^ 52 ≤ m.significand := m.normal.resolve_left (by omega)
    have reach := le_low_mul m den
    by_contra other
    have more : (2 ^ 52 + 1) * m.place den ≤ m.significand * m.place den :=
      Nat.mul_le_mul_right _ (by omega)
    omega
  have reach := le_low_mul_of_power den power (by omega)
  rw [power, twice] at reach
  have same : lastPlace num den = e := by
    cases e with
    | zero => omega
    | succ e =>
      refine lastPlace_eq pos ?_ ?_
      · calc 2 ^ (e + 53) * den = 2 ^ 52 * (den * 2 ^ (e + 1)) := by ring
          _ ≤ num := by omega
      · calc num < 2 ^ 53 * (den * 2 ^ (e + 1)) := below
          _ = 2 ^ (e + 54) * den := by ring
  have digits : significandOf num den = 2 ^ 53 := by
    rw [significandOf, same]
    exact halfEven_eq_of_even step (by decide) (by omega) (by omega)
  rw [nearest?_eq_ite, if_pos digits, same, ← power, ← he, mk?_self]

/-- What a magnitude covers rounds to it. -/
theorem Covers.nearest?_eq (h : m.Covers num den) (pos : 0 < den) : nearest? num den = some m := by
  rcases Nat.lt_or_eq_of_le (h.lastPlace_le pos) with lower | same
  · exact nearest?_eq_of_lastPlace_lt h pos lower
  · exact nearest?_eq_of_lastPlace h pos same

section

variable (pos : 0 < den) (pos' : 0 < den') (eq : num * den' = num' * den)

include pos pos' eq

theorem mul_le_iff_of_ratio (x : Nat) : x * den ≤ 4 * num ↔ x * den' ≤ 4 * num' :=
  calc x * den ≤ 4 * num ↔ x * den * den' ≤ 4 * num * den' := (Nat.mul_le_mul_right_iff pos').symm
    _ ↔ x * den' * den ≤ 4 * num' * den := by
        rw [Nat.mul_assoc 4, eq, Nat.mul_right_comm, Nat.mul_assoc 4]
    _ ↔ x * den' ≤ 4 * num' := Nat.mul_le_mul_right_iff pos

theorem le_mul_iff_of_ratio (x : Nat) : 4 * num ≤ x * den ↔ 4 * num' ≤ x * den' :=
  calc 4 * num ≤ x * den ↔ 4 * num * den' ≤ x * den * den' := (Nat.mul_le_mul_right_iff pos').symm
    _ ↔ 4 * num' * den ≤ x * den' * den := by
        rw [Nat.mul_assoc 4, eq, Nat.mul_right_comm, Nat.mul_assoc 4]
    _ ↔ 4 * num' ≤ x * den' := Nat.mul_le_mul_right_iff pos

/-- Covering depends on the value of the quotient alone. -/
theorem Covers.congr (h : m.Covers num den) : m.Covers num' den' := by
  have above := mul_le_iff_of_ratio pos pos' eq
  have below := le_mul_iff_of_ratio pos pos' eq
  refine ⟨(above _).mp h.low_le, (below _).mp h.le_high, fun odd => ?_⟩
  rw [← Nat.not_le, ← Nat.not_le, ← below, ← above, Nat.not_le, Nat.not_le]
  exact h.inside odd

end

/-! ### Decimals -/

theorem quartersPerOne_eq : quartersPerOne = 4 * unitsPerOne := by
  -- the exponents are made variables, so that nothing evaluates the powers
  have exponents : 1076 = 1074 + 2 := rfl
  delta quartersPerOne unitsPerOne
  generalize 1076 = f at exponents ⊢
  generalize 1074 = e at exponents ⊢
  rw [exponents, Nat.pow_eq, Nat.pow_eq]
  ring

theorem owns_iff {q : Nat} {p : Int} : m.owns q p = true ↔
    m.Covers (q * 10 ^ p.toNat * unitsPerOne) (10 ^ (-p).toNat) := by
  have point : q * 10 ^ p.toNat * quartersPerOne = 4 * (q * 10 ^ p.toNat * unitsPerOne) := by
    rw [quartersPerOne_eq]; ring
  simp only [owns, Nat.pow_eq, point]
  split
  case isTrue even =>
    refine decide_eq_true_iff.trans ⟨fun ⟨above, below⟩ => ⟨above, below, by omega⟩, fun h => ?_⟩
    exact ⟨h.low_le, h.le_high⟩
  case isFalse odd =>
    refine decide_eq_true_iff.trans ⟨fun ⟨above, below⟩ => ?_, fun h => h.inside (by omega)⟩
    exact ⟨Nat.le_of_lt above, Nat.le_of_lt below, fun _ => ⟨above, below⟩⟩

theorem ten_pow_pos (n : Nat) : 0 < 10 ^ n := Nat.pow_pos (by decide)

/-- More digits and a smaller exponent to match write the same number. -/
theorem owns_shift {q : Nat} {p : Int} (k : Nat) :
    m.owns (q * 10 ^ k) (p - k) = true ↔ m.owns q p = true := by
  have exponents : k + (p - k).toNat + (-p).toNat = p.toNat + (-(p - k)).toNat := by omega
  have value : q * 10 ^ k * 10 ^ (p - k).toNat * unitsPerOne * 10 ^ (-p).toNat
      = q * 10 ^ p.toNat * unitsPerOne * 10 ^ (-(p - k)).toNat :=
    calc _ = q * 10 ^ (k + (p - k).toNat + (-p).toNat) * unitsPerOne := by ring
      _ = _ := by rw [exponents]; ring
  rw [owns_iff, owns_iff]
  exact ⟨Covers.congr (ten_pow_pos _) (ten_pow_pos _) value,
    Covers.congr (ten_pow_pos _) (ten_pow_pos _) value.symm⟩

/-! ### Bounds -/

theorem high_lt (m : Magnitude) : m.high < 2 ^ (m.exponent + 55) := by
  have digits : m.significand * 2 ^ m.exponent ≤ (2 ^ 53 - 1) * 2 ^ m.exponent :=
    Nat.mul_le_mul_right _ (Nat.le_sub_one_of_lt m.significand_lt)
  have step : 0 < 2 ^ m.exponent := Nat.two_pow_pos _
  have split : 2 ^ (m.exponent + 55) = 2 ^ 55 * 2 ^ m.exponent := by ring
  simp only [high, units, Nat.pow_eq]
  omega

theorem low_bounds (nonzero : m.significand ≠ 0) : 2 ≤ m.low ∧ m.low < 4 * m.units := by
  have digits : 1 * 2 ^ m.exponent ≤ m.significand * 2 ^ m.exponent :=
    Nat.mul_le_mul_right _ (Nat.pos_of_ne_zero nonzero)
  have step : 0 < 2 ^ m.exponent := Nat.two_pow_pos _
  simp only [low, units, Nat.pow_eq]
  split <;> omega

theorem units_lt_high (m : Magnitude) : 4 * m.units < m.high := by
  have step : 0 < 2 ^ m.exponent := Nat.two_pow_pos _
  simp only [high, units, Nat.pow_eq]
  omega

theorem covers_units (m : Magnitude) (pos : 0 < den) : m.Covers (m.units * den) den := by
  have below : 4 * (m.units * den) < m.high * den := by
    rw [← Nat.mul_assoc]
    exact Nat.mul_lt_mul_of_pos_right (units_lt_high m) pos
  by_cases zero : m.significand = 0
  · obtain rfl := eq_zero zero
    rw [show Magnitude.zero.units = 0 from rfl, Nat.zero_mul] at below ⊢
    have start : Magnitude.zero.low * den ≤ 4 * 0 := by
      rw [show Magnitude.zero.low = 0 from rfl, Nat.zero_mul]
    exact ⟨start, Nat.le_of_lt below, fun odd => absurd odd (by decide)⟩
  · have above : m.low * den < 4 * (m.units * den) := by
      rw [← Nat.mul_assoc]
      exact Nat.mul_lt_mul_of_pos_right (low_bounds zero).2 pos
    exact ⟨Nat.le_of_lt above, Nat.le_of_lt below, fun _ => ⟨above, below⟩⟩

theorem two_pow_le_ten_pow (k : Nat) : 2 ^ (3 * k) ≤ 10 ^ k := by
  rw [pow_mul]
  exact Nat.pow_le_pow_left (by decide) k

theorem ne_zero_of_owns {q : Nat} {p : Int} (h : m.owns q p = true) (nonzero : m.significand ≠ 0) :
    q ≠ 0 := by
  rintro rfl
  have bottom := (owns_iff.mp h).low_le
  have := Nat.mul_le_mul (low_bounds nonzero).1 (ten_pow_pos (-p).toNat)
  simp only [Nat.zero_mul, Nat.mul_zero] at bottom
  omega

theorem exponent_le_of_owns {q : Nat} {p : Int} (h : m.owns q p = true) (some : 0 < q) :
    p ≤ 400 := by
  obtain ⟨u, hu⟩ : ∃ u, 1074 = u := ⟨_, rfl⟩
  have top := (owns_iff.mp h).le_high
  have bound := m.exponent_le
  by_contra more
  rw [show (-p).toNat = 0 by omega, Nat.pow_zero, Nat.mul_one, unitsPerOne_eq hu] at top
  have reached : 2 ^ (3 * p.toNat + u + 2) < 2 ^ (m.exponent + 55) :=
    calc 2 ^ (3 * p.toNat + u + 2) = 4 * (1 * 2 ^ (3 * p.toNat) * 2 ^ u) := by ring
      _ ≤ 4 * (q * 10 ^ p.toNat * 2 ^ u) := by
          refine Nat.mul_le_mul_left _ (Nat.mul_le_mul_right _ ?_)
          exact Nat.mul_le_mul some (two_pow_le_ten_pow _)
      _ ≤ m.high := top
      _ < 2 ^ (m.exponent + 55) := high_lt m
  have := (Nat.pow_lt_pow_iff_right (by decide)).mp reached
  omega

theorem log2_of_owns {q : Nat} {p : Int} (h : m.owns q p = true)
    (nonzero : m.significand ≠ 0) : 3 * -p ≤ q.log2 + 1076 := by
  obtain ⟨u, hu⟩ : ∃ u, 1074 = u := ⟨_, rfl⟩
  have bottom := (owns_iff.mp h).low_le
  by_contra less
  rw [show p.toNat = 0 by omega, Nat.pow_zero, Nat.mul_one, unitsPerOne_eq hu] at bottom
  have reached : 2 ^ (3 * (-p).toNat + 1) < 2 ^ (q.log2 + 1 + u + 2) :=
    calc 2 ^ (3 * (-p).toNat + 1) = 2 * 2 ^ (3 * (-p).toNat) := by ring
      _ ≤ m.low * 10 ^ (-p).toNat :=
          Nat.mul_le_mul (low_bounds nonzero).1 (two_pow_le_ten_pow _)
      _ ≤ 4 * (q * 2 ^ u) := bottom
      _ < 4 * (2 ^ (q.log2 + 1) * 2 ^ u) := by
          refine Nat.mul_lt_mul_of_pos_left ?_ (by decide)
          exact Nat.mul_lt_mul_of_pos_right Nat.lt_log2_self (Nat.two_pow_pos u)
      _ = 2 ^ (q.log2 + 1 + u + 2) := by ring
  have := (Nat.pow_lt_pow_iff_right (by decide)).mp reached
  omega

end Magnitude

theorem Binary64.ofUnits_of_nearest? {m : Magnitude} {num den : Nat} (negative : Bool)
    (h : Magnitude.nearest? num den = some m) : ofUnits negative num den = .finite negative m := by
  unfold ofUnits
  rw [h]

/-- A numeral that a magnitude owns is read as that magnitude. -/
theorem Numeral.nearest_of_owns {n : Numeral} {m : Magnitude}
    (h : m.owns n.coefficient n.exponent = true) : n.nearest = .finite n.negative m := by
  have zero (none : n.coefficient = 0 ∨ (n.coefficient.log2 + 1076 : Int) < 3 * -n.exponent) :
      m = .zero := by
    refine Magnitude.eq_zero (Decidable.byContradiction fun nonzero => ?_)
    have some := Magnitude.ne_zero_of_owns h nonzero
    have notTiny := Magnitude.log2_of_owns h nonzero
    omega
  have found := (Magnitude.owns_iff.mp h).nearest?_eq (Magnitude.ten_pow_pos _)
  unfold Numeral.nearest
  split
  case isTrue none => rw [zero (.inl none)]
  case isFalse some =>
    have notHuge := Magnitude.exponent_le_of_owns h (Nat.pos_of_ne_zero some)
    rw [if_neg (show ¬ 400 < n.exponent by omega)]
    split
    case isTrue tiny => rw [zero (.inr tiny)]
    case isFalse => exact Binary64.ofUnits_of_nearest? n.negative found

end TraceWeave
