import Mathlib.Tactic.Ring
import Mathlib.Tactic.Linarith
import TraceWeave.Proofs.Binary64
import TraceWeave.Timeline

/-! Nanoseconds as microseconds, and back.

A count of nanoseconds is rounded twice on its way to microseconds (`wholeUnits`, `microUnits`) and
twice on its way back (`thousandfold`, `restored`). All of it is in units of the format. -/

namespace TraceWeave

open Magnitude Rounding Binary64

def wholeUnits (n : Nat) : Nat := nearest (n * unitsPerOne) 1

/-- The units of so many nanoseconds in microseconds. -/
def microUnits (n : Nat) : Nat := nearest (wholeUnits n) 1000

def thousandfold (units : Nat) : Nat := nearest (units * 1000) 1

def restored (units : Nat) : Nat := min (halfUp (thousandfold units) unitsPerOne) (2 ^ 63 - 1)

theorem wholeUnits_mono {m n : Nat} (le : m ≤ n) : wholeUnits m ≤ wholeUnits n :=
  nearest_mono (by decide) (Nat.mul_le_mul_right _ le)

theorem microUnits_mono {m n : Nat} (le : m ≤ n) : microUnits m ≤ microUnits n :=
  nearest_mono (by decide) (wholeUnits_mono le)

theorem exact_wholeUnits (n : Nat) : Exact (wholeUnits n) := exact_nearest _ (by decide)

theorem wholeUnits_eq {n : Nat} (exact : Exact (n * unitsPerOne)) :
    wholeUnits n = n * unitsPerOne := by
  simpa [wholeUnits] using nearest_mul_self exact Nat.one_pos

theorem dvd_wholeUnits (n : Nat) : unitsPerOne ∣ wholeUnits n := by
  obtain ⟨u, hu, -, one⟩ := exists_unitsPerOne_eq
  rcases Nat.lt_or_ge n (2 ^ 53) with small | large
  · rw [wholeUnits_eq ⟨n, u + 1, small, by rw [one]⟩]
    exact Nat.dvd_mul_left _ _
  · have place : u < lastPlace (n * unitsPerOne) 1 := by
      rw [lt_lastPlace_iff Nat.one_pos, one]
      calc 2 ^ (u + 53) * 1 ≤ 2 ^ 53 * 2 ^ (u + 1) := by
            rw [Nat.mul_one, ← pow_add]; exact Nat.pow_le_pow_right (by decide) (by omega)
        _ ≤ n * 2 ^ (u + 1) := Nat.mul_le_mul_right _ large
    rw [one]
    exact Nat.dvd_trans (Nat.pow_dvd_pow 2 place) (Nat.dvd_mul_left _ _)

/-- The largest 64-bit count rounds up to a power of two. -/
theorem wholeUnits_max : wholeUnits (2 ^ 63 - 1) = 2 ^ 63 * unitsPerOne := by
  obtain ⟨u, -, -, one⟩ := exists_unitsPerOne_eq
  have step : 0 < 2 ^ (u + 1) := Nat.two_pow_pos _
  have place : lastPlace ((2 ^ 63 - 1) * 2 ^ (u + 1)) 1 = u + 10 + 1 := by
    refine lastPlace_eq Nat.one_pos ?_ ?_
    · calc 2 ^ (u + 10 + 53) * 1 = 2 ^ 62 * 2 ^ (u + 1) := by ring
        _ ≤ (2 ^ 63 - 1) * 2 ^ (u + 1) := Nat.mul_le_mul_right _ (by decide)
    · calc (2 ^ 63 - 1) * 2 ^ (u + 1) < 2 ^ 63 * 2 ^ (u + 1) :=
            Nat.mul_lt_mul_of_pos_right (by decide) step
        _ = 2 ^ (u + 10 + 54) * 1 := by ring
  have grid : 1 * 2 ^ (u + 10 + 1) = 1024 * 2 ^ (u + 1) := by ring
  rw [wholeUnits, one, nearest_eq (k := 2 ^ 53) place (by rw [grid]; omega) (by rw [grid]; omega)]
  ring

theorem exact_top : Exact (2 ^ 63 * unitsPerOne) := by
  obtain ⟨u, -, -, one⟩ := exists_unitsPerOne_eq
  exact ⟨1, 63 + (u + 1), by decide, by rw [one]; ring⟩

theorem wholeUnits_le {n : Nat} (le : n ≤ 2 ^ 63) : wholeUnits n ≤ 2 ^ 63 * unitsPerOne := by
  refine nearest_le exact_top Nat.one_pos ?_
  rw [Nat.mul_one]; exact Nat.mul_le_mul_right _ le

/-- The two largest counts are rounded to one number. -/
theorem microUnits_max : microUnits (2 ^ 63 - 1) = microUnits (2 ^ 63) := by
  rw [microUnits, microUnits, wholeUnits_max, wholeUnits_eq exact_top]

theorem microUnits_pos {n : Nat} (h : 0 < n) : 0 < microUnits n := by
  have one : 1 * 1000 ≤ wholeUnits n := by
    have least : wholeUnits 1 = 1 * unitsPerOne := by
      obtain ⟨u, -, -, one⟩ := exists_unitsPerOne_eq
      exact wholeUnits_eq ⟨1, u + 1, by decide, by rw [one]⟩
    have := large_unitsPerOne
    have := wholeUnits_mono (show 1 ≤ n from h)
    omega
  exact le_nearest ⟨1, 0, by decide, rfl⟩ (by decide) one

theorem microUnits_zero : microUnits 0 = 0 := by
  have exact : Exact 0 := ⟨0, 0, by decide, rfl⟩
  have whole : wholeUnits 0 = 0 := by
    rw [wholeUnits, Nat.zero_mul]; exact nearest_mul_self exact Nat.one_pos
  have micro := nearest_mul_self exact (show 0 < 1000 by decide)
  rwa [microUnits, whole, ← Nat.zero_mul 1000]

/-! ### Microseconds as numbers -/

theorem microUnits_le {n : Nat} (le : n ≤ 2 ^ 63) : microUnits n ≤ 2 ^ 63 * unitsPerOne := by
  have whole := wholeUnits_le le
  exact nearest_le exact_top (by decide) (whole.trans (Nat.le_mul_of_pos_right _ (by decide)))

theorem natAbs_toInt_le (ns : Int64) : ns.toInt.natAbs ≤ 2 ^ 63 := by
  have low := ns.le_toInt
  have high := ns.toInt_lt
  omega

/-- Microseconds are finite and have the sign of the count. -/
theorem isUnits_microseconds (ns : Int64) :
    (microseconds ns).IsUnits (ns.toInt < 0) (microUnits ns.toInt.natAbs) := by
  have size := natAbs_toInt_le ns
  have whole := isUnits_ofInt (size.trans (by decide))
  have bound := wholeUnits_le size
  have micro : (microseconds ns).IsUnits _ (nearest (wholeUnits ns.toInt.natAbs * 1) 1000) :=
    whole.scale (by decide)
      (by rw [Nat.mul_one]; exact bound.trans (Nat.mul_le_mul_right _ (by decide)))
  rwa [Nat.mul_one] at micro

theorem isUnits_microseconds_natCast {ns : Int64} {k : Nat} (h : ns.toInt = k) :
    (microseconds ns).IsUnits false (microUnits k) := by
  have units := isUnits_microseconds ns
  rwa [h, decide_eq_false (by omega), Int.natAbs_natCast] at units

theorem isUnits_microseconds_of_neg {ns : Int64} (h : ns.toInt < 0) :
    (microseconds ns).IsUnits true (microUnits ns.toInt.natAbs) := by
  have units := isUnits_microseconds ns
  rwa [decide_eq_true h] at units

theorem isFinite_microseconds (ns : Int64) : (microseconds ns).isFinite = true :=
  (isUnits_microseconds ns).isFinite

/-- A negative number of microseconds, turned around and taken back to nanoseconds. -/
theorem toInt_round_scale {x : Binary64} {units : Nat} (h : x.IsUnits true units)
    (bound : units ≤ 2 ^ 63 * unitsPerOne) :
    (x.neg.scale 1000 1).round.toInt = restored units := by
  have product : (x.neg.scale 1000 1).IsUnits false (thousandfold units) :=
    h.neg.scale Nat.one_pos (by omega)
  rw [product.toInt_round, restored]

end TraceWeave
