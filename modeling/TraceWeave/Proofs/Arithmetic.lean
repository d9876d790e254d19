import TraceWeave.Proofs.Decimal.Reading

/-! What the operations on binary64 numbers are: each is its exact result, rounded.

`Closest` says which number of the format a rational number rounds to, infinities included. A sum
is what the sum of the two values rounds to (`isSum_add`), and microseconds are what a count rounds
to, divided by 1000 and rounded again (`isMicroseconds`). -/

namespace TraceWeave

open Binary64

namespace Magnitude

variable {num den e : Nat}

/-- Half of a last place below the next power of two, the significand is still not rounded up
to it. -/
theorem significandOf_lt (place : lastPlace num den = e + 1)
    (below : num < (2 ^ 54 - 1) * 2 ^ e * den) : significandOf num den < 2 ^ 53 := by
  have rounded : 2 * (significandOf num den * (den * 2 ^ lastPlace num den)) ≤
      2 * num + den * 2 ^ lastPlace num den := Rounding.halfEven_mul_le num _
  have double : den * 2 ^ (e + 1) = 2 * (2 ^ e * den) := by ring
  rw [place, double] at rounded
  rw [Nat.mul_assoc] at below
  by_contra carry
  have full : 2 ^ 53 * (2 * (2 ^ e * den)) ≤ significandOf num den * (2 * (2 ^ e * den)) :=
    Nat.mul_le_mul_right _ (Nat.not_lt.mp carry)
  omega

theorem exists_nearest?_of_lt (last : 2045 = e + 1) (h : 0 < den)
    (below : num < (2 ^ 54 - 1) * 2 ^ e * den) : ∃ m, nearest? num den = some m := by
  have place : lastPlace num den ≤ e + 1 := by
    rw [lastPlace_le_iff h]
    calc num < (2 ^ 54 - 1) * 2 ^ e * den := below
      _ ≤ 2 ^ 54 * 2 ^ e * den := Nat.mul_le_mul_right _ (Nat.mul_le_mul_right _ (by decide))
      _ = 2 ^ (e + 1 + 53) * den := by ring
  rcases Nat.lt_or_eq_of_le place with lower | top
  · obtain ⟨m, found, -⟩ := exists_nearest? h (show lastPlace num den ≤ 2044 by omega)
    exact ⟨m, found⟩
  · -- there is no exponent left to carry into
    have noCarry := significandOf_lt top below
    have digits : 2 ^ 52 ≤ significandOf num den := le_significandOf h (by omega)
    obtain ⟨m, found, -⟩ := mk?_eq_some noCarry (show lastPlace num den ≤ 2045 by omega)
      (.inr digits)
    rw [nearest?_eq_ite, if_neg noCarry.ne]
    exact ⟨m, found⟩

end Magnitude

namespace Binary64

variable {x y : Binary64} {q : ℚ} {negative : Bool} {num den : Nat}

/-- A rational number rounds to this one: to the closest, of two to that with the even significand,
and from half of a last place above the largest one on to an infinity. -/
inductive Closest (q : ℚ) : Binary64 → Prop where
  | finite {negative : Bool} {m : Magnitude} : (negative = true ↔ q < 0) → m.Closest |q| →
      Closest q (.finite negative m)
  | infinite {negative : Bool} : (negative = true ↔ q < 0) → Magnitude.limit ≤ |q| →
      Closest q (.infinite negative)

/-- `z` is the sum of a number and a finite one. An exact zero is negative only as a sum of two
negative zeros. -/
inductive IsSum : Binary64 → Binary64 → Binary64 → Prop where
  | rounded {s t : Bool} {m n : Magnitude} {z : Binary64} :
      value (.finite s m) + value (.finite t n) ≠ 0 →
      z.Closest (value (.finite s m) + value (.finite t n)) → IsSum (.finite s m) (.finite t n) z
  | cancelled {s t : Bool} {m n : Magnitude} :
      value (.finite s m) + value (.finite t n) = 0 →
      IsSum (.finite s m) (.finite t n) (.finite (s && t) .zero)
  | endless {s t : Bool} {n : Magnitude} : IsSum (.infinite s) (.finite t n) (.infinite s)

/-- `x` is a count of nanoseconds in microseconds: the count rounded, divided by 1000 and rounded
again. -/
def IsMicroseconds (count : ℤ) (x : Binary64) : Prop :=
  ∃ whole : Binary64, whole.isFinite = true ∧ whole.Closest count ∧ x.Closest (whole.value / 1000)

theorem abs_value (negative : Bool) (m : Magnitude) :
    |value (.finite negative m)| * unitsPerOne = m.units := by
  rw [← abs_of_pos cast_unitsPerOne_pos, ← abs_mul, value_mul_unitsPerOne, ← Int.cast_abs]
  cases negative with
  | false => simp [scaled]
  | true => simp [scaled]

/-- A rounded quotient of units is the closest number. -/
theorem closest_ofUnits (pos : 0 < den) (sign : negative = true ↔ q < 0)
    (ratio : |q| * unitsPerOne * den = num) : (ofUnits negative num den).Closest q := by
  by_cases below : |q| < Magnitude.limit
  · obtain ⟨e, last⟩ : ∃ e, 2045 = e + 1 := ⟨2044, rfl⟩
    obtain ⟨m, found⟩ := Magnitude.exists_nearest?_of_lt last pos
      ((Magnitude.lt_limit_iff pos last ratio).mp below)
    rw [ofUnits_of_nearest? negative found]
    exact .finite sign (Magnitude.closest_of_units pos (Magnitude.units_of_nearest? found) ratio)
  · unfold ofUnits
    split
    case h_1 m found =>
      have same := Magnitude.units_of_nearest? found
      exact absurd (Magnitude.lt_limit pos same ratio) below
    case h_2 => exact .infinite sign (not_lt.mp below)

theorem closest_ofInt (n : ℤ) : (ofInt n).Closest n := by
  refine closest_ofUnits Nat.one_pos (by simp) ?_
  rw [Nat.cast_mul, Nat.cast_natAbs, Int.cast_abs, Nat.cast_one, mul_one]

/-- Sums of finite numbers are rounded once, and infinities stay what they are. -/
theorem isSum_add (hx : x.isNaN = false) (hy : y.isFinite = true) : IsSum x y (x.add y) := by
  cases y with
  | infinite => cases hy
  | nan => cases hy
  | finite t n =>
    cases x with
    | nan => cases hx
    | infinite s => exact .endless
    | finite s m =>
      have total : value (.finite s m) + value (.finite t n) =
          ((signed s m.units + signed t n.units : ℤ) : ℚ) / unitsPerOne := by
        rw [value, value, ← add_div, Int.cast_add]
        rfl
      simp only [Binary64.add]
      generalize signed s m.units + signed t n.units = z at total ⊢
      have pos := cast_unitsPerOne_pos
      split
      case isTrue none =>
        exact .cancelled (by rw [total, none, Int.cast_zero, zero_div])
      case isFalse nonzero =>
        refine .rounded ?_ (closest_ofUnits Nat.one_pos ?_ ?_)
        · rw [total]
          exact div_ne_zero (Int.cast_ne_zero.mpr nonzero) pos.ne'
        · rw [total, decide_eq_true_iff, div_lt_iff₀ pos, zero_mul, Int.cast_lt_zero]
        · rw [total, abs_div, abs_of_pos pos, div_mul_cancel₀ _ pos.ne', Nat.cast_one, mul_one,
            Nat.cast_natAbs, Int.cast_abs]

theorem IsUnits.negative_iff {k : Nat} (h : x.IsUnits negative k)
    (sign : negative = true → 0 < k) : negative = true ↔ x.value < 0 := by
  rw [value_neg_iff, h.scaled_eq]
  cases negative with
  | false => simp
  | true => simpa using sign rfl

theorem IsUnits.closest_scale {k : Nat} (h : x.IsUnits negative k) (sign : negative = true → 0 < k)
    (pos : 0 < den) : (x.scale 1 den).Closest (x.value / den) := by
  have parts : (0 : ℚ) < den := Nat.cast_pos.mpr pos
  have below := h.negative_iff sign
  obtain ⟨m, rfl, -⟩ := h
  refine closest_ofUnits pos ?_ ?_
  · rw [below, div_lt_iff₀ parts, zero_mul]
  · rw [abs_div, abs_of_pos parts, div_mul_eq_mul_div, div_mul_cancel₀ _ parts.ne', abs_value,
      Nat.mul_one]

end Binary64

theorem wholeUnits_pos {n : Nat} (h : 0 < n) : 0 < wholeUnits n := by
  by_contra none
  have micro := microUnits_pos h
  rw [microUnits, Nat.eq_zero_of_not_pos none, Magnitude.nearest_zero 1000 (by decide)] at micro
  exact lt_irrefl 0 micro

theorem isMicroseconds (ns : Int64) :
    IsMicroseconds ns.toInt ((ofInt ns.toInt).scale 1 1000) := by
  have units := isUnits_ofInt ((natAbs_toInt_le ns).trans (by decide))
  refine ⟨ofInt ns.toInt, units.isFinite, closest_ofInt _, units.closest_scale ?_ (by decide)⟩
  intro negative
  have early : ns.toInt < 0 := of_decide_eq_true negative
  exact wholeUnits_pos (by omega)

end TraceWeave
