import Mathlib.Algebra.Order.Field.Rat
import Mathlib.Algebra.Order.Ring.Cast
import Mathlib.Tactic.Ring
import TraceWeave.Binary64.Integer
import TraceWeave.Binary64.Order
import TraceWeave.Proofs.Magnitude

/-! What the operations on binary64 numbers do to finite numbers.

`x.IsUnits negative n` says that `x` is finite, with this sign and this many units. Each operation
has one lemma about it, in terms of `Magnitude.nearest`. -/

namespace TraceWeave.Binary64

open Magnitude

/-- The exponent is kept as a variable, so that nothing evaluates the power. -/
theorem unitsPerOne_eq {e : Nat} (h : 1074 = e) : unitsPerOne = 2 ^ e := by
  delta unitsPerOne
  generalize 1074 = d at h
  rw [h, Nat.pow_eq]

theorem exists_unitsPerOne_eq : ∃ u, 64 ≤ u ∧ u ≤ 1073 ∧ unitsPerOne = 2 ^ (u + 1) :=
  ⟨1073, by decide, by decide, unitsPerOne_eq rfl⟩

theorem unitsPerOne_pos : 0 < unitsPerOne := by
  obtain ⟨u, -, -, one⟩ := exists_unitsPerOne_eq
  rw [one]; exact Nat.two_pow_pos _

theorem cast_unitsPerOne_pos : (0 : ℚ) < unitsPerOne :=
  Nat.cast_pos.mpr unitsPerOne_pos

theorem large_unitsPerOne : 2 ^ 53 * 1000 ≤ unitsPerOne := by
  obtain ⟨u, hu, -, one⟩ := exists_unitsPerOne_eq
  calc 2 ^ 53 * 1000 ≤ 2 ^ 64 := by decide
    _ ≤ unitsPerOne := one ▸ Nat.pow_le_pow_right (by decide) (by omega)

theorem lastPlace_le_of_le {num den : Nat} (h : 0 < den) (bound : num ≤ 2 ^ 128 * unitsPerOne) :
    lastPlace num den ≤ 2044 := by
  obtain ⟨u, -, hu, one⟩ := exists_unitsPerOne_eq
  have place : lastPlace num den ≤ u + 77 := by
    rw [lastPlace_le_iff h]
    calc num ≤ 2 ^ 128 * unitsPerOne := bound
      _ = 2 ^ (u + 129) := by rw [one]; ring
      _ < 2 ^ (u + 77 + 53) := Nat.pow_lt_pow_right (by decide) (by omega)
      _ ≤ 2 ^ (u + 77 + 53) * den := Nat.le_mul_of_pos_right _ h
  omega

def IsUnits (x : Binary64) (negative : Bool) (n : Nat) : Prop :=
  ∃ m : Magnitude, x = .finite negative m ∧ m.units = n

variable {x y : Binary64} {s t : Bool} {m n num den : Nat}

@[simp]
theorem signed_false (n : Nat) : signed false n = n := rfl

@[simp]
theorem signed_true (n : Nat) : signed true n = -(n : Int) := rfl

theorem IsUnits.isFinite (h : x.IsUnits s n) : x.isFinite = true := by
  obtain ⟨m, rfl, -⟩ := h; rfl

theorem IsUnits.scaled_eq (h : x.IsUnits s n) : x.scaled = signed s n := by
  obtain ⟨m, rfl, rfl⟩ := h; rfl

theorem position_eq_scaled (h : x.isFinite = true) : x.position = x.scaled := by
  cases x with
  | finite => rfl
  | infinite => cases h
  | nan => cases h

theorem isNaN_eq_false (h : x.isFinite = true) : x.isNaN = false := by
  cases x with
  | finite => rfl
  | infinite => cases h
  | nan => cases h

theorem lt_iff_position (hx : x.isNaN = false) (hy : y.isNaN = false) :
    x.lt y = true ↔ x.position < y.position := by
  simp [lt, hx, hy]

theorem lt_iff (hx : x.isFinite = true) (hy : y.isFinite = true) :
    x.lt y = true ↔ x.scaled < y.scaled := by
  rw [lt_iff_position (isNaN_eq_false hx) (isNaN_eq_false hy), position_eq_scaled hx,
    position_eq_scaled hy]

theorem isNegative_iff_position (h : x.isNaN = false) : x.isNegative = true ↔ x.position < 0 :=
  lt_iff_position h rfl

theorem isNegative_iff (h : x.isFinite = true) : x.isNegative = true ↔ x.scaled < 0 := by
  rw [isNegative_iff_position (isNaN_eq_false h), position_eq_scaled h]

/-- `rank` only refines the order of the numbers, by the sign of zero. -/
theorem position_le_of_rank_le (le : x.rank ≤ y.rank) : x.position ≤ y.position := by
  have none : (Binary64.finite true .zero).position = 0 := by decide
  unfold rank at le
  by_cases zx : x = .finite true .zero
  · rw [if_pos zx] at le
    rw [zx, none]
    split at le
    case isTrue zy => rw [zy, none]
    case isFalse => omega
  · rw [if_neg zx] at le
    split at le
    case isTrue zy => rw [zy, none]; omega
    case isFalse => omega

theorem isUnits_ofUnits (h : 0 < den) (bound : num ≤ 2 ^ 128 * unitsPerOne) :
    (ofUnits s num den).IsUnits s (nearest num den) := by
  obtain ⟨m, found, units⟩ := exists_nearest? h (lastPlace_le_of_le h bound)
  refine ⟨m, ?_, units⟩
  unfold ofUnits
  rw [found]

theorem isUnits_ofInt {z : Int} (bound : z.natAbs ≤ 2 ^ 128) :
    (ofInt z).IsUnits (z < 0) (nearest (z.natAbs * unitsPerOne) 1) :=
  isUnits_ofUnits Nat.one_pos (Nat.mul_le_mul_right _ bound)

theorem IsUnits.scale (h : x.IsUnits s n) (pos : 0 < den)
    (bound : n * num ≤ 2 ^ 128 * unitsPerOne) :
    (x.scale num den).IsUnits s (nearest (n * num) den) := by
  obtain ⟨m, rfl, rfl⟩ := h
  exact isUnits_ofUnits pos bound

theorem IsUnits.neg (h : x.IsUnits s n) : x.neg.IsUnits (!s) n := by
  obtain ⟨m, rfl, units⟩ := h
  exact ⟨m, rfl, units⟩

theorem signed_natAbs_nearest (z : Int) (h : 0 ≤ z) : 0 ≤ signed (z < 0) (nearest z.natAbs 1) := by
  have : ¬ z < 0 := by omega
  simp [signed, this]

/-- A sum of numbers far from the end of the format is their rounded sum. -/
theorem IsUnits.add (hx : x.IsUnits s m) (hy : y.IsUnits t n)
    (bound : m + n ≤ 2 ^ 128 * unitsPerOne) :
    (x.add y).isFinite = true ∧ (x.add y).scaled =
      signed (signed s m + signed t n < 0) (nearest (signed s m + signed t n).natAbs 1) := by
  obtain ⟨m, rfl, rfl⟩ := hx
  obtain ⟨n, rfl, rfl⟩ := hy
  have size : (signed s m.units + signed t n.units).natAbs ≤ m.units + n.units := by
    cases s <;> cases t <;> simp only [signed, if_true, if_false, Bool.false_eq_true] <;> omega
  simp only [Binary64.add]
  split
  case isTrue none =>
    refine ⟨rfl, ?_⟩
    have : nearest 0 1 = 0 := nearest_mul_self ⟨0, 0, by decide, rfl⟩ Nat.one_pos
    rw [none, Int.natAbs_zero, this]
    cases s <;> cases t <;> rfl
  case isFalse nonzero =>
    have sum := isUnits_ofUnits (s := signed s m.units + signed t n.units < 0) Nat.one_pos
      (size.trans bound)
    exact ⟨sum.isFinite, sum.scaled_eq⟩

theorem IsUnits.toInt_round (h : x.IsUnits false n) :
    x.round.toInt = min (Rounding.halfUp n unitsPerOne) (2 ^ 63 - 1) := by
  obtain ⟨m, rfl, rfl⟩ := h
  simp only [round, toInt64, wholePart, signed, Bool.false_eq_true, if_false, Clamped.toInt_ofInt]
  have low : Int64.minValue.toInt = -9223372036854775808 := by decide
  have high : Int64.maxValue.toInt = 9223372036854775807 := by decide
  omega

end TraceWeave.Binary64
