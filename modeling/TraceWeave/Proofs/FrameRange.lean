import TraceWeave.Proofs.Frame
import TraceWeave.Proofs.Number

/-! Which values name a frame, and which frame it is.

`NearestEven` says of an integer that it is the nearest one to a rational number, with a half going
to the even neighbour, and each number has just one such integer. A value names it where it is a
64-bit number (`frames_named_exactly`).

The test for that range may be made on numbers of the format (`boundedFrame?`). The largest 64-bit
number is not one of them and rounds up to `2 ^ 63`, but the rounded value is, and it is below that
if and only if it is in the range. -/

namespace TraceWeave

open Rounding Binary64

/-! ### The nearest integer of a rational number -/

/-- No integer is nearer to the number, and if another one is as near, this one is even. -/
structure NearestEven (q : ℚ) (n : ℤ) : Prop where
  near : ∀ k : ℤ, |q - n| ≤ |q - k|
  even : ∀ k : ℤ, k ≠ n → |q - k| = |q - n| → n % 2 = 0

variable {p q : ℚ} {m n : ℤ}

namespace NearestEven

theorem abs_le_half (h : NearestEven q n) : |q - n| ≤ 1 / 2 := by
  have below := sq_le_sq.mpr (h.near (n - 1))
  have above := sq_le_sq.mpr (h.near (n + 1))
  push_cast at below above
  rw [abs_le]
  constructor
  · linarith
  · linarith

theorem even_of_half (h : NearestEven q n) (half : |q - n| = 1 / 2) : n % 2 = 0 := by
  rcases (abs_eq (by norm_num)).mp half with above | below
  · refine h.even (n + 1) (by omega) ?_
    rw [half, Int.cast_add, Int.cast_one, ← sub_sub, above]
    norm_num
  · refine h.even (n - 1) (by omega) ?_
    rw [half, Int.cast_sub, Int.cast_one, ← sub_add, below]
    norm_num

/-- It is enough to look at the distance from the integer itself. -/
theorem of_abs_le_half (near : |q - n| ≤ 1 / 2) (even : |q - n| = 1 / 2 → n % 2 = 0) :
    NearestEven q n := by
  have other (k : ℤ) (apart : k ≠ n) : 1 ≤ |q - n| + |q - k| := by
    have far : (1 : ℚ) ≤ |(k : ℚ) - n| := by
      exact_mod_cast Int.one_le_abs (sub_ne_zero.mpr apart)
    calc (1 : ℚ) ≤ |(k : ℚ) - n| := far
      _ = |(q - n) - (q - k)| := by congr 1; ring
      _ ≤ |q - n| + |q - k| := abs_sub _ _
  constructor
  · intro k
    by_cases same : k = n
    · rw [same]
    · linarith [other k same]
  · intro k apart tie
    apply even
    linarith [other k apart]

theorem iff_abs_le_half :
    NearestEven q n ↔ |q - n| ≤ 1 / 2 ∧ (|q - n| = 1 / 2 → n % 2 = 0) := by
  constructor
  · intro h
    exact ⟨h.abs_le_half, h.even_of_half⟩
  · rintro ⟨near, even⟩
    exact of_abs_le_half near even

/-- Rounding keeps the order. If it did not, both numbers would be the middle of two neighbours,
and both of these even. -/
theorem mono (hp : NearestEven p m) (hq : NearestEven q n) (le : p ≤ q) : m ≤ n := by
  by_contra less
  have next : (n : ℚ) + 1 ≤ m := by exact_mod_cast Int.not_le.mp less
  obtain ⟨low, -⟩ := abs_le.mp hp.abs_le_half
  obtain ⟨-, high⟩ := abs_le.mp hq.abs_le_half
  have middle : q = n + 1 / 2 := by linarith
  have same : p = q := by linarith
  have neighbour : (m : ℚ) = n + 1 := by linarith
  have evenLow : n % 2 = 0 := by
    apply hq.even_of_half
    rw [middle, add_sub_cancel_left]
    norm_num
  have evenHigh : m % 2 = 0 := by
    apply hp.even_of_half
    rw [same, middle, neighbour]
    norm_num
  have : m = n + 1 := by exact_mod_cast neighbour
  omega

theorem unique (h : NearestEven q m) (h' : NearestEven q n) : m = n :=
  le_antisymm (h.mono h' le_rfl) (h'.mono h le_rfl)

theorem exists_nearestEven (q : ℚ) : ∃ n, NearestEven q n := by
  have low := Int.floor_le q
  have high := Int.lt_floor_add_one q
  rcases lt_trichotomy (q - ⌊q⌋) (1 / 2) with below | middle | above
  · refine ⟨⌊q⌋, of_abs_le_half ?_ ?_⟩
    · rw [abs_of_nonneg (by linarith)]
      exact below.le
    · intro half
      rw [abs_of_nonneg (by linarith)] at half
      exact absurd half below.ne
  · rcases Int.emod_two_eq_zero_or_one ⌊q⌋ with even | odd
    · refine ⟨⌊q⌋, of_abs_le_half ?_ fun _ => even⟩
      rw [middle]
      norm_num
    · refine ⟨⌊q⌋ + 1, of_abs_le_half ?_ fun _ => by omega⟩
      rw [Int.cast_add, Int.cast_one, ← sub_sub, middle]
      norm_num
  · refine ⟨⌊q⌋ + 1, of_abs_le_half ?_ ?_⟩
    · rw [Int.cast_add, Int.cast_one, abs_le]
      constructor <;> linarith
    · intro half
      rw [Int.cast_add, Int.cast_one, abs_of_nonpos (by linarith)] at half
      linarith

theorem existsUnique (q : ℚ) : ∃! n, NearestEven q n := by
  obtain ⟨n, nearest⟩ := exists_nearestEven q
  exact ⟨n, nearest, fun _ other => other.unique nearest⟩

end NearestEven

/-! ### The frame of a value -/

section

variable {value : Binary64} {frame : Int64}

/-- The distance from an integer, counted in units. -/
theorem Binary64.abs_value_sub (value : Binary64) (n : ℤ) :
    |value.value - n| * unitsPerOne = (value.scaled - n * unitsPerOne).natAbs := by
  calc |value.value - n| * unitsPerOne = |(value.value - n) * unitsPerOne| := by
        rw [abs_mul, abs_of_pos cast_unitsPerOne_pos]
    _ = |(value.scaled : ℚ) - n * unitsPerOne| := by
        rw [sub_mul, value_mul_unitsPerOne]
    _ = (value.scaled - n * unitsPerOne).natAbs := by
        rw [Nat.cast_natAbs]
        push_cast
        rfl

theorem Binary64.roundsTo_iff :
    value.RoundsTo n ↔ value.isFinite = true ∧ NearestEven value.value n := by
  have pos := cast_unitsPerOne_pos
  have distance := value.abs_value_sub n
  have near : |value.value - n| ≤ 1 / 2 ↔
      2 * (value.scaled - n * unitsPerOne).natAbs ≤ unitsPerOne := by
    rw [← mul_le_mul_iff_left₀ pos, distance, ← Nat.cast_le (α := ℚ)]
    push_cast
    constructor <;> intro h <;> linarith
  have half : |value.value - n| = 1 / 2 ↔
      2 * (value.scaled - n * unitsPerOne).natAbs = unitsPerOne := by
    rw [← mul_left_inj' pos.ne', distance, ← Nat.cast_inj (R := ℚ)]
    push_cast
    constructor <;> intro h <;> linarith
  rw [NearestEven.iff_abs_le_half, near, half]
  constructor
  · intro h
    exact ⟨h.finite, h.near, h.even⟩
  · rintro ⟨finite, near, even⟩
    exact ⟨finite, near, even⟩

/-- A value names the 64-bit number that is nearest to it. -/
theorem frameNumber?_eq_some_iff_nearestEven : frameNumber? value = some frame ↔
    value.isFinite = true ∧ NearestEven value.value frame.toInt := by
  rw [frameNumber?_eq_some_iff, roundsTo_iff]

/-- All others name none: they are not finite, or their nearest integer is no 64-bit number. -/
theorem frameNumber?_eq_none_iff : frameNumber? value = none ↔
    ∀ n, value.isFinite = true → NearestEven value.value n → n < -2 ^ 63 ∨ 2 ^ 63 - 1 < n := by
  constructor
  · intro none n finite nearest
    by_contra inRange
    have same : (Int64.ofInt n).toInt = n := Int64.toInt_ofInt_of_le (by omega) (by omega)
    have named := frameNumber?_eq_some_iff_nearestEven.mpr ⟨finite, same.symm ▸ nearest⟩
    rw [none] at named
    cases named
  · intro outside
    rw [Option.eq_none_iff_forall_ne_some]
    intro frame named
    obtain ⟨finite, nearest⟩ := frameNumber?_eq_some_iff_nearestEven.mp named
    have low := frame.minValue_le_toInt
    have high := frame.toInt_le
    have bounds : Int64.minValue.toInt = -2 ^ 63 ∧ Int64.maxValue.toInt = 2 ^ 63 - 1 := by decide
    have := outside frame.toInt finite nearest
    omega

end

/-! ### The range, tested on numbers of the format -/

namespace Binary64

def roundEven : Binary64 → Binary64
  | .finite negative m => ofUnits negative (halfEven m.units unitsPerOne * unitsPerOne) 1
  | other => other

/-- The frame of a value, found by comparing the rounded value with the ends of the range as
numbers of the format. -/
def boundedFrame? (value : Binary64) : Option Int64 :=
  let rounded := value.roundEven
  if rounded.isFinite = false ∨ rounded.lt (ofInt Int64.minValue.toInt) = true ∨
      rounded.lt (ofInt Int64.maxValue.toInt) = false then none
  else some rounded.truncate

/-- A magnitude has as many units as a whole number that it is rounded to. -/
theorem exists_units_eq_halfEven (m : Magnitude) :
    ∃ whole : Magnitude, whole.units = halfEven m.units unitsPerOne * unitsPerOne := by
  obtain ⟨u, -, -, one⟩ := exists_unitsPerOne_eq
  rcases Nat.le_total (u + 1) m.exponent with large | small
  · -- there is nothing behind the point
    have whole : unitsPerOne ∣ m.units := by
      rw [one, Magnitude.units, Nat.pow_eq]
      exact Nat.dvd_trans (Nat.pow_dvd_pow 2 large) (Nat.dvd_mul_left _ _)
    obtain ⟨k, units⟩ := whole
    rw [Nat.mul_comm] at units
    exact ⟨m, by rw [units, halfEven_mul k unitsPerOne_pos]⟩
  · have bound : m.units ≤ 2 ^ 53 * unitsPerOne := by
      rw [one, Magnitude.units, Nat.pow_eq]
      exact Nat.mul_le_mul m.significand_lt.le (Nat.pow_le_pow_right (by decide) small)
    have rounded := halfEven_mono unitsPerOne_pos bound
    rw [halfEven_mul _ unitsPerOne_pos] at rounded
    exact Magnitude.exists_units_eq rounded

theorem isUnits_roundEven (negative : Bool) (m : Magnitude) :
    IsUnits (finite negative m).roundEven negative
      (halfEven m.units unitsPerOne * unitsPerOne) := by
  obtain ⟨whole, units⟩ := exists_units_eq_halfEven m
  have covers := whole.covers_units Nat.one_pos
  rw [Nat.mul_one, units] at covers
  exact ⟨whole, ofUnits_of_nearest? negative (covers.nearest?_eq Nat.one_pos), units⟩

theorem signed_mul (negative : Bool) (k den : Nat) :
    signed negative (k * den) = signed negative k * den := by
  cases negative with
  | false => exact Int.natCast_mul k den
  | true => rw [signed_true, signed_true, Int.natCast_mul, Int.neg_mul]

theorem scaled_roundEven (negative : Bool) (m : Magnitude) : (finite negative m).roundEven.scaled =
    wholePart halfEven negative m * unitsPerOne :=
  (isUnits_roundEven negative m).scaled_eq.trans (signed_mul negative _ unitsPerOne)

theorem isUnits_ofInt_toInt (x : Int64) :
    (ofInt x.toInt).IsUnits (x.toInt < 0) (wholeUnits x.toInt.natAbs) :=
  isUnits_ofInt ((natAbs_toInt_le x).trans (by decide))

/-- The largest 64-bit number rounds up. -/
theorem isUnits_maxValue : (ofInt Int64.maxValue.toInt).IsUnits false (2 ^ 63 * unitsPerOne) := by
  have units := isUnits_ofInt_toInt Int64.maxValue
  have size : Int64.maxValue.toInt.natAbs = 2 ^ 63 - 1 := by decide
  have sign : decide (Int64.maxValue.toInt < 0) = false := by decide
  rwa [size, sign, wholeUnits_max] at units

theorem isUnits_minValue : (ofInt Int64.minValue.toInt).IsUnits true (2 ^ 63 * unitsPerOne) := by
  have units := isUnits_ofInt_toInt Int64.minValue
  have size : Int64.minValue.toInt.natAbs = 2 ^ 63 := by decide
  have sign : decide (Int64.minValue.toInt < 0) = true := by decide
  rwa [size, sign, wholeUnits_eq exact_top] at units

theorem lt_iff_of_whole {n i : ℤ} {negative : Bool} {k : Nat} {x bound : Binary64}
    (h : x.isFinite = true) (whole : x.scaled = n * unitsPerOne)
    (units : bound.IsUnits negative (k * unitsPerOne)) (integer : signed negative k = i) :
    x.lt bound = true ↔ n < i := by
  rw [lt_iff h units.isFinite, units.scaled_eq, signed_mul, whole, integer]
  exact Int.mul_lt_mul_right (Int.natCast_pos.mpr unitsPerOne_pos)

theorem truncate_roundEven (negative : Bool) (m : Magnitude) :
    (finite negative m).roundEven.truncate = Clamped.ofInt (wholePart halfEven negative m) := by
  rw [← Int64.toInt_inj, (isUnits_roundEven negative m).toInt_truncate,
    Nat.mul_div_cancel _ unitsPerOne_pos, Clamped.toInt_ofInt]
  rfl

/-- On numbers of the format the test finds the same frames: the rounded value is whole, and so it
is below the lower end or not below the upper one, which counts as `2 ^ 63`, just when it is out of
range. -/
theorem boundedFrame?_eq (value : Binary64) : value.boundedFrame? = frameNumber? value := by
  cases value with
  | finite negative m =>
    have rounded := (isUnits_roundEven negative m).isFinite
    have whole := scaled_roundEven negative m
    have low := lt_iff_of_whole rounded whole isUnits_minValue (i := -2 ^ 63) (by decide)
    have high := lt_iff_of_whole rounded whole isUnits_maxValue (i := 2 ^ 63) (by decide)
    have bottom : Int64.minValue.toInt = -2 ^ 63 := by decide
    have top : Int64.maxValue.toInt = 2 ^ 63 - 1 := by decide
    unfold boundedFrame? frameNumber? nearestInt? Clamped.ofInt?
    simp only [rounded, truncate_roundEven, ← Bool.not_eq_true, low, high, not_true_eq_false,
      false_or, Option.bind_some]
    generalize wholePart halfEven negative m = n
    unfold Clamped.ofInt
    split
    case isTrue outside =>
      rw [if_neg (by omega)]
    case isFalse inside =>
      rw [if_neg (by omega), if_neg (by omega), if_pos (by omega)]
  | infinite => rfl
  | nan => rfl

end Binary64

/-- A value names a frame if and only if it is finite and the integer nearest to it, of two equally
near the even one, is a 64-bit number; the frame is that integer. To compare the rounded value with
the ends of the range as numbers of the format is the same. So frames are in the order of the values
that name them, and values that are more than 1 apart name different ones. -/
theorem frames_named_exactly :
    (∀ q : ℚ, ∃! n, NearestEven q n) ∧
    (∀ value frame, frameNumber? value = some frame ↔
      value.isFinite = true ∧ NearestEven value.value frame.toInt) ∧
    (∀ value, frameNumber? value = none ↔
      ∀ n, value.isFinite = true → NearestEven value.value n → n < -2 ^ 63 ∨ 2 ^ 63 - 1 < n) ∧
    (∀ value : Binary64, value.boundedFrame? = frameNumber? value) ∧
    ∀ a b i j, frameNumber? a = some i → frameNumber? b = some j →
      (a.value ≤ b.value → i ≤ j) ∧ (1 < |a.value - b.value| → i ≠ j) := by
  refine ⟨NearestEven.existsUnique, ?named, ?nameless, boundedFrame?_eq, ?apart⟩
  case named =>
    intro value frame
    exact frameNumber?_eq_some_iff_nearestEven
  case nameless =>
    intro value
    exact frameNumber?_eq_none_iff
  case apart =>
    intro a b i j first second
    obtain ⟨-, nearestA⟩ := frameNumber?_eq_some_iff_nearestEven.mp first
    obtain ⟨-, nearestB⟩ := frameNumber?_eq_some_iff_nearestEven.mp second
    constructor
    · intro le
      exact Int64.le_iff_toInt_le.mpr (nearestA.mono nearestB le)
    · rintro apart rfl
      have near := abs_sub_le a.value i.toInt b.value
      have halfA := nearestA.abs_le_half
      have halfB := nearestB.abs_le_half
      rw [abs_sub_comm (i.toInt : ℚ)] at near
      linarith

/-- The lower end of the range, and the last number of the format before the upper one. -/
theorem frames_named_exactly_ends :
    let first := Binary64.finite true ⟨2 ^ 52, 1085, by decide, by decide, by decide⟩
    let last := Binary64.finite false ⟨2 ^ 53 - 1, 1084, by decide, by decide, by decide⟩
    (frameNumber? first = some Int64.minValue ∧ frameNumber? last = some 9223372036854774784) ∧
      (first.value ≤ last.value ∧ Int64.minValue ≤ 9223372036854774784) ∧
      1 < |first.value - last.value| ∧ Int64.minValue ≠ 9223372036854774784 := by
  intro first last
  have lower : frameNumber? first = some Int64.minValue := by decide +kernel
  have upper : frameNumber? last = some 9223372036854774784 := by decide +kernel
  have le : first.value ≤ last.value := by decide +kernel
  have wide : 1 < |first.value - last.value| := by decide +kernel
  obtain ⟨-, -, -, -, named⟩ := frames_named_exactly
  obtain ⟨order, apart⟩ := named first last _ _ lower upper
  exact ⟨⟨lower, upper⟩, ⟨le, order le⟩, wide, apart wide⟩

end TraceWeave
