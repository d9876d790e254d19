import TraceWeave.Marker
import TraceWeave.Proofs.Binary64

/-! The frame that a sampled value names.

`RoundsTo` says what it is to be the nearest integer, with a half going to the even neighbour, and
no value rounds to two integers. So a value names the one frame that it rounds to
(`frameNumber?_eq_some_iff`). -/

namespace TraceWeave

open Rounding

namespace Binary64

variable {value : Binary64} {n n' : Int}

/-- The number is at most one half away from the integer, and if it is that far, the integer is
even. Both are counted in units. -/
structure RoundsTo (value : Binary64) (n : Int) : Prop where
  finite : value.isFinite = true
  near : 2 * (value.scaled - n * unitsPerOne).natAbs ≤ unitsPerOne
  even : 2 * (value.scaled - n * unitsPerOne).natAbs = unitsPerOne → n % 2 = 0

theorem natAbs_signed_sub (negative : Bool) (m k den : Nat) :
    (signed negative m - signed negative k * den).natAbs = ((m : Int) - k * den).natAbs := by
  cases negative
  · rfl
  · rw [signed_true, signed_true, Int.neg_mul]
    omega

theorem roundsTo_wholePart (negative : Bool) (m : Magnitude) :
    (finite negative m).RoundsTo (wholePart halfEven negative m) := by
  have pos := unitsPerOne_pos
  have above := halfEven_mul_le m.units unitsPerOne
  have below := le_halfEven_mul m.units pos
  have distance := natAbs_signed_sub negative m.units (halfEven m.units unitsPerOne) unitsPerOne
  refine ⟨rfl, ?_, fun half => ?_⟩
  · rw [scaled, wholePart, distance]
    omega
  · rw [scaled, wholePart, distance] at half
    have even : halfEven m.units unitsPerOne % 2 = 0 := halfEven_mod_two pos (by omega)
    cases negative
    · rw [wholePart, signed_false]; omega
    · rw [wholePart, signed_true]; omega

/-- Of two integers that a number rounds to, the second is not the larger one: they would be
neighbours, and both even. -/
theorem RoundsTo.le (h : value.RoundsTo n) (h' : value.RoundsTo n') : n' ≤ n := by
  by_contra less
  have near := h.near
  have near' := h'.near
  have even := h.even
  have even' := h'.even
  have pos := unitsPerOne_pos
  have apart : (n + 1) * (unitsPerOne : Int) ≤ n' * unitsPerOne :=
    Int.mul_le_mul_of_nonneg_right (by omega) (by omega)
  rw [Int.add_mul, Int.one_mul] at apart
  have next : n' = n + 1 := by
    by_contra farther
    have wide : (n + 2) * (unitsPerOne : Int) ≤ n' * unitsPerOne :=
      Int.mul_le_mul_of_nonneg_right (by omega) (by omega)
    rw [Int.add_mul] at wide
    omega
  omega

theorem nearestInt?_eq_some_iff : value.nearestInt? = some n ↔ value.RoundsTo n := by
  cases value with
  | finite negative m =>
    have rounded := roundsTo_wholePart negative m
    refine Option.some_inj.trans ⟨fun same => same ▸ rounded, fun h => ?_⟩
    exact Int.le_antisymm (h.le rounded) (rounded.le h)
  | infinite => exact ⟨nofun, fun h => nomatch h.finite⟩
  | nan => exact ⟨nofun, fun h => nomatch h.finite⟩

end Binary64

theorem Clamped.ofInt?_eq_some_iff {n : Int} {x : Int64} : ofInt? n = some x ↔ x.toInt = n := by
  have low := x.minValue_le_toInt
  have high := x.toInt_le
  unfold ofInt?
  split
  case isTrue inRange =>
    rw [Option.some_inj, ← Int64.toInt_inj, Int64.toInt_ofInt_of_le inRange.1 ?_]
    · exact eq_comm
    · have top : Int64.maxValue.toInt = 9223372036854775807 := by decide
      omega
  case isFalse outside =>
    refine ⟨nofun, fun same => absurd ?_ outside⟩
    rw [← same]
    exact ⟨low, high⟩

theorem frameNumber?_eq_some_iff {value : Binary64} {frame : Int64} :
    frameNumber? value = some frame ↔ value.RoundsTo frame.toInt := by
  simp only [frameNumber?, Option.bind_eq_some_iff, Binary64.nearestInt?_eq_some_iff,
    Clamped.ofInt?_eq_some_iff]
  exact ⟨fun ⟨n, rounds, same⟩ => same ▸ rounds, fun rounds => ⟨_, rounds, rfl⟩⟩

end TraceWeave
