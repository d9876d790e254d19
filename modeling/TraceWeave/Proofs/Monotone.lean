import TraceWeave.Proofs.Decimal.Closest
import TraceWeave.Proofs.Normalization

/-! Every step from the text of a number to the time of an event keeps the order: rounding a decimal
to the nearest number, cutting it to an integer within the 64-bit range, moving it, counting it in
microseconds and adding the normalization.

Magnitudes and signs are handled apart. A rounding of magnitudes that keeps the order and takes zero
to zero does the same to numbers with a sign (`signed_mono`). -/

namespace TraceWeave

open Binary64

namespace Rounding

/-- A quotient is rounded by its value alone. -/
theorem halfEven_mul_mul (num den : Nat) {k : Nat} (pos : 0 < k) :
    halfEven (num * k) (den * k) = halfEven num den := by
  have less : 2 * (num % den * k) < den * k ↔ 2 * (num % den) < den := by
    rw [← Nat.mul_assoc, Nat.mul_lt_mul_right pos]
  have more : den * k < 2 * (num % den * k) ↔ den < 2 * (num % den) := by
    rw [← Nat.mul_assoc, Nat.mul_lt_mul_right pos]
  simp only [halfEven, Nat.mul_div_mul_right _ _ pos, Nat.mul_mod_mul_right, less, more]

end Rounding

namespace Magnitude

variable {num den : Nat} {m : Magnitude}

theorem nearest_mul_mul (num den : Nat) {k : Nat} (pos : 0 < k) :
    nearest (num * k) (den * k) = nearest num den := by
  have place : lastPlace (num * k) (den * k) = lastPlace num den := by
    rw [lastPlace, lastPlace, Nat.mul_div_mul_right _ _ pos]
  rw [nearest, nearest, significandOf, significandOf, place, Nat.mul_right_comm den,
    Rounding.halfEven_mul_mul _ _ pos]

theorem nearest_zero (den : Nat) (pos : 0 < den) : nearest 0 den = 0 := by
  have exact : Exact 0 := ⟨0, 0, by decide, rfl⟩
  have whole := nearest_mul_self exact pos
  rwa [Nat.zero_mul] at whole

theorem units_of_mk? {s e : Nat} (h : mk? s e = some m) : m.units = s * 2 ^ e := by
  unfold mk? at h
  split at h
  case isTrue => cases h; rfl
  case isFalse => cases h

theorem units_of_nearest? (h : nearest? num den = some m) : m.units = nearest num den := by
  rw [nearest?_eq_ite] at h
  split at h
  case isTrue carry =>
    rw [units_of_mk? h, nearest, carry]
    ring
  case isFalse => exact units_of_mk? h

/-- Below half of a unit everything rounds to zero. -/
theorem nearest_eq_zero (small : 2 * num < den) : nearest num den = 0 := by
  have place : lastPlace num den = 0 := by
    rw [lastPlace, Nat.div_eq_of_lt (by omega)]
    rfl
  have none := nearest_eq (k := 0) place (by omega) (by omega)
  rwa [Nat.zero_mul] at none

end Magnitude

namespace Binary64

variable {s t : Bool} {m n : Nat} {x y : Binary64}

theorem signed_mono {f : Nat → Nat} (mono : ∀ m n, m ≤ n → f m ≤ f n) (zero : f 0 = 0)
    (le : signed s m ≤ signed t n) : signed s (f m) ≤ signed t (f n) := by
  cases s <;> cases t <;> simp only [signed_false, signed_true] at le ⊢
  case false.false =>
    have := mono m n (by omega)
    omega
  case false.true =>
    obtain ⟨rfl, rfl⟩ : m = 0 ∧ n = 0 := by omega
    omega
  case true.false => omega
  case true.true =>
    have := mono n m (by omega)
    omega

theorem signed_natAbs (z : Int) : signed (z < 0) z.natAbs = z := by
  by_cases negative : z < 0
  · rw [decide_eq_true negative, signed_true]; omega
  · rw [decide_eq_false negative, signed_false]; omega

theorem signed_natAbs_mono {f : Nat → Nat} (mono : ∀ m n, m ≤ n → f m ≤ f n) (zero : f 0 = 0)
    {z w : Int} (le : z ≤ w) : signed (z < 0) (f z.natAbs) ≤ signed (w < 0) (f w.natAbs) := by
  refine signed_mono mono zero ?_
  rwa [signed_natAbs, signed_natAbs]

theorem IsUnits.toInt_truncate (h : x.IsUnits s n) : x.truncate.toInt =
    max Int64.minValue.toInt (min (signed s (n / unitsPerOne)) Int64.maxValue.toInt) := by
  obtain ⟨m, rfl, rfl⟩ := h
  exact Clamped.toInt_ofInt _

theorem truncate_mono (hx : x.IsUnits s m) (hy : y.IsUnits t n) (le : x.scaled ≤ y.scaled) :
    x.truncate.toInt ≤ y.truncate.toInt := by
  rw [hx.scaled_eq, hy.scaled_eq] at le
  have whole := signed_mono (f := (· / unitsPerOne)) (fun m n => Nat.div_le_div_right)
    (Nat.zero_div _) le
  rw [hx.toInt_truncate, hy.toInt_truncate]
  omega

end Binary64

theorem Clamped.add_mono {a b : Int64} (c : Int64) (le : a.toInt ≤ b.toInt) :
    (add a c).toInt ≤ (add b c).toInt := by
  rw [toInt_add, toInt_add]
  omega

namespace MergedTimeline

theorem scaled_microseconds_mono {s t : Int64} (le : s.toInt ≤ t.toInt) :
    (microseconds s).scaled ≤ (microseconds t).scaled := by
  rw [scaled_microseconds, scaled_microseconds]
  exact signed_natAbs_mono (fun _ _ => microUnits_mono) microUnits_zero le

theorem scaled_add_microseconds_mono {s t : Int64} (shift : Int64) (le : s.toInt ≤ t.toInt) :
    ((microseconds s).add (microseconds shift)).scaled ≤
      ((microseconds t).add (microseconds shift)).scaled := by
  have sum (s : Int64) := ((isUnits_microseconds s).add (isUnits_microseconds shift) (by
    have bound := microUnits_le (natAbs_toInt_le s)
    have bound' := microUnits_le (natAbs_toInt_le shift)
    omega)).2
  rw [sum, sum, ← scaled_microseconds, ← scaled_microseconds, ← scaled_microseconds]
  have before := scaled_microseconds_mono le
  refine signed_natAbs_mono (f := (Magnitude.nearest · 1))
    (fun _ _ => Magnitude.nearest_mono Nat.one_pos) (Magnitude.nearest_zero 1 Nat.one_pos) ?_
  omega

end MergedTimeline

theorem Binary64.ofUnits_cases (negative : Bool) (num den : Nat) :
    ofUnits negative num den = .infinite negative ∨
      (ofUnits negative num den).IsUnits negative (Magnitude.nearest num den) := by
  unfold ofUnits
  cases found : Magnitude.nearest? num den with
  | none => exact .inl rfl
  | some m => exact .inr ⟨m, rfl, Magnitude.units_of_nearest? found⟩

namespace Numeral

variable {n n' : Numeral}

/-- The units of a numeral are these over `parts`. -/
def units (n : Numeral) : Nat := n.coefficient * 10 ^ n.exponent.toNat * unitsPerOne

def parts (n : Numeral) : Nat := 10 ^ (-n.exponent).toNat

theorem parts_pos (n : Numeral) : 0 < n.parts := Magnitude.ten_pow_pos _

theorem units_small (tiny : (n.coefficient.log2 + 1076 : Int) < 3 * -n.exponent) :
    2 * n.units < n.parts := by
  obtain ⟨u, hu⟩ : ∃ u, 1074 = u := ⟨_, rfl⟩
  rw [units, parts, show n.exponent.toNat = 0 by omega, Nat.pow_zero, Nat.mul_one,
    unitsPerOne_eq hu]
  calc 2 * (n.coefficient * 2 ^ u) < 2 * (2 ^ (n.coefficient.log2 + 1) * 2 ^ u) :=
        Nat.mul_lt_mul_of_pos_left
          (Nat.mul_lt_mul_of_pos_right Nat.lt_log2_self (Nat.two_pow_pos u)) (by decide)
    _ = 2 ^ (n.coefficient.log2 + u + 2) := by ring
    _ ≤ 2 ^ (3 * (-n.exponent).toNat) := Nat.pow_le_pow_right (by decide) (by omega)
    _ ≤ 10 ^ (-n.exponent).toNat := Magnitude.two_pow_le_ten_pow _

/-- A numeral is beyond the format, or it is read as its value rounded once. -/
theorem nearest_cases (n : Numeral) : n.nearest = .infinite n.negative ∨
    n.nearest.IsUnits n.negative (Magnitude.nearest n.units n.parts) := by
  unfold nearest
  split
  case isTrue none =>
    refine .inr ⟨.zero, rfl, ?_⟩
    rw [units, none, Nat.zero_mul, Nat.zero_mul, Magnitude.nearest_zero _ n.parts_pos]
    rfl
  case isFalse =>
    split
    case isTrue => exact .inl rfl
    case isFalse =>
      split
      case isTrue tiny =>
        exact .inr ⟨.zero, rfl, (Magnitude.nearest_eq_zero (units_small tiny)).symm⟩
      case isFalse =>
        exact ofUnits_cases n.negative n.units n.parts

theorem isUnits_nearest (finite : n.nearest.isFinite = true) :
    n.nearest.IsUnits n.negative (Magnitude.nearest n.units n.parts) := by
  refine n.nearest_cases.resolve_left fun infinite => ?_
  rw [infinite] at finite
  cases finite

theorem size_mul_parts (n : Numeral) : n.size * unitsPerOne * n.parts = n.units := by
  unfold units parts
  exact n.size_mul_unitsPerOne

theorem signed_units_mul (n : Numeral) (k : Nat) :
    (signed n.negative (n.units * k) : ℚ) = n.value * unitsPerOne * n.parts * k := by
  rw [signed, value]
  split
  case isTrue =>
    rw [neg_mul, neg_mul, neg_mul, size_mul_parts, Int.cast_neg, Int.cast_natCast, Nat.cast_mul]
  case isFalse => rw [size_mul_parts, Int.cast_natCast, Nat.cast_mul]

theorem signed_units_le (le : n.value ≤ n'.value) :
    signed n.negative (n.units * n'.parts) ≤ signed n'.negative (n'.units * n.parts) := by
  rw [← Int.cast_le (R := ℚ), signed_units_mul, signed_units_mul, mul_right_comm (n'.value * _)]
  have nonneg (k : Nat) : (0 : ℚ) ≤ k := Nat.cast_nonneg k
  refine mul_le_mul_of_nonneg_right (mul_le_mul_of_nonneg_right ?_ (nonneg _)) (nonneg _)
  exact mul_le_mul_of_nonneg_right le (nonneg _)

theorem scaled_nearest_mono (finite : n.nearest.isFinite = true)
    (finite' : n'.nearest.isFinite = true) (le : n.value ≤ n'.value) :
    n.nearest.scaled ≤ n'.nearest.scaled := by
  rw [(isUnits_nearest finite).scaled_eq, (isUnits_nearest finite').scaled_eq,
    ← Magnitude.nearest_mul_mul n.units n.parts n'.parts_pos,
    ← Magnitude.nearest_mul_mul n'.units n'.parts n.parts_pos, Nat.mul_comm n'.parts]
  have common := Nat.mul_pos n.parts_pos n'.parts_pos
  exact signed_mono (f := (Magnitude.nearest · (n.parts * n'.parts)))
    (fun _ _ => Magnitude.nearest_mono common) (Magnitude.nearest_zero _ common)
    (signed_units_le le)

end Numeral

end TraceWeave
