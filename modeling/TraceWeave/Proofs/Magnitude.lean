import Mathlib.Tactic.Ring
import TraceWeave.Binary64.Basic
import TraceWeave.Proofs.Rounding

/-! The magnitude nearest to a quotient.

`nearest num den` is what `nearest?` finds, in units, as long as the format reaches that far
(`exists_nearest?`). It keeps the order, leaves numbers of the format alone and is within half of
a last place, where the last place is that of the quotient. -/

namespace TraceWeave.Magnitude

open Rounding

variable {num num' den e k : Nat}

/-- The exponent of the last place of numbers around `num / den`. -/
def lastPlace (num den : Nat) : Nat := (num / den).log2 - 52

def significandOf (num den : Nat) : Nat := halfEven num (den * 2 ^ lastPlace num den)

/-- The number nearest to `num / den`, had the format no end. -/
def nearest (num den : Nat) : Nat := significandOf num den * 2 ^ lastPlace num den

theorem lastPlace_le_iff (h : 0 < den) : lastPlace num den ≤ e ↔ num < 2 ^ (e + 53) * den := by
  rw [← Nat.div_lt_iff_lt_mul h, lastPlace]
  rcases Nat.eq_zero_or_pos (num / den) with zero | pos
  · simp [zero]
  · rw [← Nat.log2_lt (by omega)]
    omega

theorem lastPlace_mono (h : 0 < den) (le : num ≤ num') : lastPlace num den ≤ lastPlace num' den :=
  (lastPlace_le_iff h).mpr (Nat.lt_of_le_of_lt le ((lastPlace_le_iff h).mp (Nat.le_refl _)))

theorem lt_lastPlace_iff (h : 0 < den) : e < lastPlace num den ↔ 2 ^ (e + 53) * den ≤ num := by
  rw [← Nat.not_le, lastPlace_le_iff h, Nat.not_lt]

theorem lastPlace_eq (h : 0 < den) (low : 2 ^ (e + 53) * den ≤ num)
    (high : num < 2 ^ (e + 54) * den) : lastPlace num den = e + 1 :=
  Nat.le_antisymm ((lastPlace_le_iff h).mpr high) ((lt_lastPlace_iff h).mpr low)

/-- In numbers with a last place above the smallest, the significand has all its digits. -/
theorem le_of_lastPlace_pos (h : 0 < den) (pos : 0 < lastPlace num den) :
    2 ^ 52 * (den * 2 ^ lastPlace num den) ≤ num := by
  obtain ⟨e, he⟩ : ∃ e, lastPlace num den = e + 1 := ⟨lastPlace num den - 1, by omega⟩
  have reached : 2 ^ (e + 53) * den ≤ num := (lt_lastPlace_iff h).mp (by omega)
  calc 2 ^ 52 * (den * 2 ^ lastPlace num den) = 2 ^ (e + 53) * den := by rw [he]; ring
    _ ≤ num := reached

theorem significandOf_le (h : 0 < den) : significandOf num den ≤ 2 ^ 53 := by
  have below : num < 2 ^ (lastPlace num den + 53) * den := (lastPlace_le_iff h).mp (Nat.le_refl _)
  have step : 0 < den * 2 ^ lastPlace num den := Nat.mul_pos h (Nat.two_pow_pos _)
  calc significandOf num den ≤ halfEven (2 ^ 53 * (den * 2 ^ lastPlace num den)) _ :=
        halfEven_mono step (Nat.le_of_lt (by convert below using 1; ring))
    _ = 2 ^ 53 := halfEven_mul _ step

theorem le_significandOf (h : 0 < den) (pos : 0 < lastPlace num den) :
    2 ^ 52 ≤ significandOf num den := by
  have step : 0 < den * 2 ^ lastPlace num den := Nat.mul_pos h (Nat.two_pow_pos _)
  calc 2 ^ 52 = halfEven (2 ^ 52 * (den * 2 ^ lastPlace num den)) _ := (halfEven_mul _ step).symm
    _ ≤ significandOf num den := halfEven_mono step (le_of_lastPlace_pos h pos)

theorem nearest_mono (h : 0 < den) (le : num ≤ num') : nearest num den ≤ nearest num' den := by
  have places := lastPlace_mono h le
  rcases Nat.lt_or_eq_of_le places with lt | eq
  · -- a smaller last place: the power of two between them parts the two numbers
    have full : 2 ^ 52 ≤ significandOf num' den := le_significandOf h (by omega)
    calc nearest num den ≤ 2 ^ 53 * 2 ^ lastPlace num den :=
          Nat.mul_le_mul_right _ (significandOf_le h)
      _ = 2 ^ 52 * 2 ^ (lastPlace num den + 1) := by ring
      _ ≤ significandOf num' den * 2 ^ lastPlace num' den :=
          Nat.mul_le_mul full (Nat.pow_le_pow_right (by decide) lt)
  · unfold nearest significandOf
    rw [eq]
    exact Nat.mul_le_mul_right _ (halfEven_mono (Nat.mul_pos h (Nat.two_pow_pos _)) le)

theorem nearest_mul (num den : Nat) :
    nearest num den * den = significandOf num den * (den * 2 ^ lastPlace num den) := by
  unfold nearest; ring

/-- The nearest number is at most half of a last place too large. -/
theorem nearest_mul_le (num den : Nat) :
    2 * (nearest num den * den) ≤ 2 * num + den * 2 ^ lastPlace num den := by
  rw [nearest_mul]
  exact halfEven_mul_le num _

theorem le_nearest_mul (num : Nat) (h : 0 < den) :
    2 * num ≤ 2 * (nearest num den * den) + den * 2 ^ lastPlace num den := by
  rw [nearest_mul]
  exact le_halfEven_mul num (Nat.mul_pos h (Nat.two_pow_pos _))

/-- Less than half of a last place away from a multiple of it, a quotient rounds to that. -/
theorem nearest_eq (place : lastPlace num den = e)
    (below : 2 * (k * (den * 2 ^ e)) < 2 * num + den * 2 ^ e)
    (above : 2 * num < 2 * (k * (den * 2 ^ e)) + den * 2 ^ e) : nearest num den = k * 2 ^ e := by
  rw [nearest, significandOf, place, halfEven_eq below above]

/-- A number of the format without end: at most 53 digits. -/
def Exact (n : Nat) : Prop := ∃ s e, s < 2 ^ 53 ∧ n = s * 2 ^ e

theorem exact_of_dvd {n : Nat} (dvd : 2 ^ e ∣ n) (le : n ≤ 2 ^ (e + 53)) : Exact n := by
  obtain ⟨s, rfl⟩ := dvd
  have bound : s ≤ 2 ^ 53 := Nat.le_of_mul_le_mul_left (by rwa [pow_add] at le) (Nat.two_pow_pos e)
  rcases Nat.lt_or_eq_of_le bound with lt | rfl
  · exact ⟨s, e, lt, Nat.mul_comm ..⟩
  · exact ⟨2 ^ 52, e + 1, by decide, by ring⟩

theorem Exact.dvd {n : Nat} (exact : Exact n) (le : 2 ^ (e + 52) ≤ n) : 2 ^ e ∣ n := by
  obtain ⟨s, i, lt, rfl⟩ := exact
  have fewer : s * 2 ^ i < 2 ^ (53 + i) := by
    rw [pow_add]; exact Nat.mul_lt_mul_of_pos_right lt (Nat.two_pow_pos i)
  have : e + 52 < 53 + i := (Nat.pow_lt_pow_iff_right (by decide)).mp (Nat.lt_of_le_of_lt le fewer)
  exact Nat.dvd_trans (Nat.pow_dvd_pow 2 (by omega)) (Nat.dvd_mul_left _ _)

theorem exact_nearest (num : Nat) (h : 0 < den) : Exact (nearest num den) := by
  refine exact_of_dvd (Nat.dvd_mul_left _ _) ?_
  rw [pow_add, Nat.mul_comm]
  exact Nat.mul_le_mul_right _ (significandOf_le h)

theorem nearest_mul_self {n : Nat} (exact : Exact n) (h : 0 < den) : nearest (n * den) den = n := by
  obtain ⟨s, e, lt, rfl⟩ := exact
  have place : lastPlace (s * 2 ^ e * den) den ≤ e := by
    rw [lastPlace_le_iff h, pow_add, Nat.mul_comm (2 ^ e)]
    exact Nat.mul_lt_mul_of_pos_right (Nat.mul_lt_mul_of_pos_right lt (Nat.two_pow_pos e)) h
  obtain ⟨d, hd⟩ := Nat.exists_eq_add_of_le place
  generalize hp : lastPlace (s * 2 ^ e * den) den = p at *
  subst hd
  have multiple : s * 2 ^ (p + d) * den = s * 2 ^ d * (den * 2 ^ p) := by ring
  rw [nearest, significandOf, hp, multiple, halfEven_mul _ (Nat.mul_pos h (Nat.two_pow_pos p))]
  ring

/-- Rounding does not step over a number of the format. -/
theorem le_nearest {n : Nat} (exact : Exact n) (h : 0 < den) (le : n * den ≤ num) :
    n ≤ nearest num den :=
  nearest_mul_self exact h ▸ nearest_mono h le

theorem nearest_le {n : Nat} (exact : Exact n) (h : 0 < den) (le : num ≤ n * den) :
    nearest num den ≤ n :=
  nearest_mul_self exact h ▸ nearest_mono h le

theorem mk?_eq_some {s : Nat} (lt : s < 2 ^ 53) (le : e ≤ 2045) (normal : e = 0 ∨ 2 ^ 52 ≤ s) :
    ∃ m, mk? s e = some m ∧ m.units = s * 2 ^ e :=
  ⟨⟨s, e, lt, le, normal⟩, dif_pos ⟨lt, le, normal⟩, rfl⟩

theorem nearest?_eq_ite (num den : Nat) : nearest? num den =
    if significandOf num den = 2 ^ 53 then mk? (2 ^ 52) (lastPlace num den + 1)
    else mk? (significandOf num den) (lastPlace num den) := rfl

theorem exists_nearest? (h : 0 < den) (place : lastPlace num den ≤ 2044) :
    ∃ m, nearest? num den = some m ∧ m.units = nearest num den := by
  have full : significandOf num den ≤ 2 ^ 53 := significandOf_le h
  have digits : lastPlace num den = 0 ∨ 2 ^ 52 ≤ significandOf num den := by
    rcases Nat.eq_zero_or_pos (lastPlace num den) with zero | pos
    · exact .inl zero
    · exact .inr (le_significandOf h pos)
  rw [nearest?_eq_ite]
  split
  case isTrue carry =>
    obtain ⟨m, some, units⟩ := mk?_eq_some (s := 2 ^ 52) (e := lastPlace num den + 1)
      (by decide) (by omega) (.inr (by decide))
    refine ⟨m, some, units.trans ?_⟩
    rw [nearest, carry]
    ring
  case isFalse noCarry =>
    exact mk?_eq_some (by omega) (by omega) digits

end TraceWeave.Magnitude
