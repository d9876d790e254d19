import Mathlib.Data.Rat.Floor
import TraceWeave.Proofs.Arithmetic
import TraceWeave.Proofs.Ingest

/-! The numbers in a row, by what their texts write.

A numeral is read as a finite number if and only if its value is below the limit of the format
(`isFinite_nearest_iff`). With what a text writes this says which texts are read as numbers and as
times, and as which ones (`numbers_read_exactly`). -/

namespace TraceWeave

open Binary64

namespace Numeral

variable {n : Numeral}

/-- So many places before the point lead beyond the format. -/
theorem limit_le_size (nonzero : n.coefficient ≠ 0) (huge : 400 < n.exponent) :
    Magnitude.limit ≤ n.size := by
  obtain ⟨k, exponent⟩ := Int.eq_ofNat_of_zero_le (show 0 ≤ n.exponent by omega)
  have small : (0 : ℚ) ≤ 2 ^ 970 := by positivity
  calc Magnitude.limit ≤ 2 ^ 1024 := sub_le_self _ small
    _ ≤ 2 ^ (3 * k) := pow_le_pow_right₀ (by norm_num) (by omega)
    _ ≤ 10 ^ k := by exact_mod_cast Magnitude.two_pow_le_ten_pow k
    _ ≤ n.coefficient * 10 ^ k :=
        le_mul_of_one_le_left (by positivity) (Nat.one_le_cast.mpr (Nat.pos_of_ne_zero nonzero))
    _ = n.size := by rw [size, exponent, zpow_natCast]

theorem isFinite_nearest_iff (n : Numeral) :
    n.nearest.isFinite = true ↔ n.size < Magnitude.limit := by
  constructor
  · intro finite
    obtain ⟨m, -, closest⟩ := exists_closest finite
    exact closest.lt_limit
  · intro below
    unfold nearest
    split
    case isTrue => rfl
    case isFalse nonzero =>
      split
      case isTrue huge => exact absurd below (not_lt.mpr (limit_le_size nonzero huge))
      case isFalse =>
        split
        case isTrue => rfl
        case isFalse =>
          obtain ⟨e, last⟩ : ∃ e, 2045 = e + 1 := ⟨2044, rfl⟩
          have units := (Magnitude.lt_limit_iff n.parts_pos last n.size_mul_parts).mp below
          obtain ⟨m, found⟩ := Magnitude.exists_nearest?_of_lt last n.parts_pos units
          have same := ofUnits_of_nearest? n.negative found
          exact congrArg isFinite same

end Numeral

/-! ### Parts before the point -/

def towardZero (q : ℚ) : ℤ := if 0 ≤ q then ⌊q⌋ else ⌈q⌉

theorem towardZero_value (x : Binary64) : towardZero x.value = x.scaled.tdiv unitsPerOne := by
  have sign : 0 ≤ x.value ↔ 0 ≤ x.scaled := by rw [← not_lt, value_neg_iff, not_lt]
  unfold towardZero
  split
  case isTrue nonneg =>
    rw [Binary64.value, Rat.floor_intCast_div_natCast,
      Int.tdiv_eq_ediv_of_nonneg (sign.mp nonneg)]
  case isFalse negative =>
    have nonneg : 0 ≤ -x.scaled := by have := mt sign.mpr negative; omega
    rw [Binary64.value, Rat.ceil_intCast_div_natCast, ← Int.tdiv_eq_ediv_of_nonneg nonneg,
      Int.neg_tdiv, Int.neg_neg]

section

variable {text : String} {x : Binary64} {ns : Int64}

theorem readReal?_eq_some_iff_exists : readReal? text = some x ↔
    ∃ negative q m, Numeral.Writes text.toList negative q ∧ Magnitude.Closest m q ∧
      x = .finite negative m := by
  rw [readReal?_eq_some_iff]
  constructor
  · rintro ⟨writes, closest⟩
    exact ⟨_, _, _, writes, closest, rfl⟩
  · rintro ⟨negative, q, m, writes, closest, rfl⟩
    exact .rounded writes closest

theorem isSome_readReal?_iff : (readReal? text).isSome ↔
    ∃ negative q, Numeral.Writes text.toList negative q ∧ q < Magnitude.limit := by
  constructor
  · intro h
    obtain ⟨x, read⟩ := Option.isSome_iff_exists.mp h
    obtain ⟨negative, q, m, writes, closest, -⟩ := readReal?_eq_some_iff_exists.mp read
    exact ⟨negative, q, writes, closest.lt_limit⟩
  · rintro ⟨negative, q, writes, below⟩
    obtain ⟨n, read, -, rfl⟩ := Numeral.read?_of_writes writes
    have finite := n.isFinite_nearest_iff.mpr below
    simp [readReal?, readFinite?, read, finite]

theorem toInt_of_readNanoseconds? (real : readReal? text = some x)
    (time : readNanoseconds? text = some ns) :
    ns.toInt = max (-2 ^ 63) (min (towardZero x.value) (2 ^ 63 - 1)) := by
  rw [readNanoseconds?, real, Option.map_some, Option.some_inj] at time
  rw [← time, toInt_truncate (readReal?_eq_some_iff.mp real), towardZero_value]
  rfl

/-- An integer of few enough digits is its own part before the point. -/
theorem exists_readNanoseconds?_of_writesInt {n : Int} (written : Numeral.WritesInt text.toList n)
    (small : n.natAbs ≤ 2 ^ 53) : ∃ ns, readNanoseconds? text = some ns ∧ ns.toInt = n := by
  have inRange : (Int64.ofInt n).toInt = n := Int64.toInt_ofInt_of_le (by omega) (by omega)
  refine ⟨Int64.ofInt n, WritesNanoseconds.read ⟨?_, ?_⟩, inRange⟩
  · rwa [inRange]
  · rwa [inRange]

end

/-- A text is read as a number if and only if it is a numeral and its value rounds to a finite
number; then it is read as the number closest to its value, of two equally close as the one with
the even significand, with the sign of the text. It is read as a time in the same cases, and the
time is the part of the number before the point, or the end of the 64-bit range that the number is
beyond. Integers of up to 53 digits in binary are read as themselves. -/
theorem numbers_read_exactly (text : String) :
    (∀ x, readReal? text = some x ↔
      ∃ negative q m, Numeral.Writes text.toList negative q ∧ Magnitude.Closest m q ∧
        x = .finite negative m) ∧
    ((readReal? text).isSome ↔
      ∃ negative q, Numeral.Writes text.toList negative q ∧ q < Magnitude.limit) ∧
    (readNanoseconds? text).isSome = (readReal? text).isSome ∧
    (∀ x ns, readReal? text = some x → readNanoseconds? text = some ns →
      ns.toInt = max (-2 ^ 63) (min (towardZero x.value) (2 ^ 63 - 1))) ∧
    ∀ n : Int, n.natAbs ≤ 2 ^ 53 → Numeral.WritesInt text.toList n →
      ∃ ns, readNanoseconds? text = some ns ∧ ns.toInt = n := by
  refine ⟨?number, ?limit, ?cases, ?cut, ?whole⟩
  case number =>
    intro x
    exact readReal?_eq_some_iff_exists
  case limit => exact isSome_readReal?_iff
  case cases => exact Option.isSome_map
  case cut =>
    intro x ns real time
    exact toInt_of_readNanoseconds? real time
  case whole =>
    intro n small written
    exact exists_readNanoseconds?_of_writesInt written small

/-- The largest integer that counts, and a time beyond the 64-bit range. -/
theorem numbers_read_exactly_large :
    (∃ ns, readNanoseconds? "-9007199254740992" = some ns ∧ ns.toInt = -9007199254740992) ∧
      ∃ x ns, readReal? "+.5E30" = some x ∧ readNanoseconds? "+.5E30" = some ns ∧
        ns.toInt = max (-2 ^ 63) (min (towardZero x.value) (2 ^ 63 - 1)) := by
  constructor
  · obtain ⟨-, -, -, -, whole⟩ := numbers_read_exactly "-9007199254740992"
    have same : toString (-9007199254740992 : Int) = "-9007199254740992" := by decide +kernel
    exact whole (-9007199254740992) (by decide) (same ▸ Numeral.writesInt_toString _)
  · obtain ⟨-, -, same, cut, -⟩ := numbers_read_exactly "+.5E30"
    have read : (readReal? "+.5E30").isSome = true := by decide +kernel
    obtain ⟨x, real⟩ := Option.isSome_iff_exists.mp read
    obtain ⟨ns, time⟩ := Option.isSome_iff_exists.mp (same.trans read)
    exact ⟨x, ns, real, time, cut x ns real time⟩

end TraceWeave
