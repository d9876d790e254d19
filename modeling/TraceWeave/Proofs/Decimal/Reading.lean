import TraceWeave.Proofs.Monotone

/-! What a text says that can be read as a number.

A text that is read is a numeral of the grammar (`writes_of_read?`), and the finite number it is
read as is the closest one to its value (`closest_of_units`). With the other direction, a text is
read as a number exactly when it writes one that rounds to it (`readFinite?_eq_some_iff`). -/

namespace TraceWeave

open Binary64 Rounding

namespace Numeral

open Json

variable {text : List Char} {x : Int} {n : Numeral}

theorem exists_sign (text : List Char) :
    ∃ sign, Sign sign (splitSign text).1 ∧ text = sign ++ (splitSign text).2 := by
  unfold splitSign
  split
  · exact ⟨_, .minus, rfl⟩
  · exact ⟨_, .plus, rfl⟩
  · exact ⟨_, .none, rfl⟩

theorem exists_point (text : List Char) :
    ∃ point, WritesFraction point (splitFraction text).1 ∧
      text = point ++ (splitFraction text).2 := by
  unfold splitFraction
  split
  · refine ⟨_, .given (List.all_eq_true.mp List.all_takeWhile), ?_⟩
    rw [List.cons_append, List.takeWhile_append_dropWhile]
  · exact ⟨_, .absent, rfl⟩

theorem writesInt_of_readInteger? (h : readInteger? text = some x) : WritesInt text x := by
  obtain ⟨sign, written, split⟩ := exists_sign text
  rw [readInteger?] at h
  generalize splitSign text = parts at h written split
  obtain ⟨negative, digits⟩ := parts
  subst split
  dsimp only at h
  split at h
  case isTrue => cases h
  case isFalse all =>
    simp only [Bool.or_eq_true, List.isEmpty_iff, Bool.not_eq_true', not_or, Bool.not_eq_false,
      List.all_eq_true] at all
    cases h
    exact .parts written all

theorem writesExponent_of_readExponent? (h : readExponent? text = some x) :
    WritesExponent text x := by
  unfold readExponent? at h
  split at h
  case h_1 => cases h; exact .absent
  case h_2 =>
    split at h
    case isTrue mark => exact .given mark (writesInt_of_readInteger? h)
    case isFalse => cases h

theorem readInteger?_eq_some_iff : readInteger? text = some x ↔ WritesInt text x :=
  ⟨writesInt_of_readInteger?, readInteger?_of_writesInt⟩

theorem writes_of_read? (h : read? text = some n) : Writes text n.negative n.size := by
  obtain ⟨sign, signed, split⟩ := exists_sign text
  rw [read?] at h
  generalize splitSign text = parts at h signed split
  obtain ⟨negative, rest⟩ := parts
  subst split
  obtain ⟨point, fraction, split⟩ := exists_point (rest.dropWhile Char.isDigit)
  dsimp only at h
  generalize splitFraction (rest.dropWhile Char.isDigit) = parts at h fraction split
  obtain ⟨digits, more⟩ := parts
  dsimp only at h split
  split at h
  case isTrue => cases h
  case isFalse some =>
    obtain ⟨x, exponent, h⟩ := Option.bind_eq_some_iff.mp h
    cases h
    have whole : ∀ c ∈ rest.takeWhile Char.isDigit, c.isDigit = true :=
      List.all_eq_true.mp List.all_takeWhile
    have written : rest.takeWhile Char.isDigit ≠ [] ∨ digits ≠ [] := by
      simpa [List.isEmpty_iff, or_iff_not_imp_left] using some
    have parts := Writes.parts signed whole fraction written
      (writesExponent_of_readExponent? exponent)
    rw [← split, List.takeWhile_append_dropWhile] at parts
    rw [size_eq]
    exact parts

end Numeral

/-! ### Rounding -/

namespace Magnitude

variable {m : Magnitude} {q : ℚ} {num den e : Nat}

/-- Below its last place a magnitude has fewer digits than all. -/
theorem units_lt (m : Magnitude) (smaller : m.exponent < e) : m.units < 2 ^ 52 * 2 ^ e := by
  have digits := m.significand_lt
  simp only [units, Nat.pow_eq] at digits ⊢
  calc m.significand * 2 ^ m.exponent < 2 ^ 53 * 2 ^ m.exponent :=
        Nat.mul_lt_mul_of_pos_right digits (Nat.two_pow_pos _)
    _ = 2 ^ 52 * 2 ^ (m.exponent + 1) := by ring
    _ ≤ 2 ^ 52 * 2 ^ e := Nat.mul_le_mul_left _ (Nat.pow_le_pow_right (by decide) smaller)

theorem units_eq_mul (m : Magnitude) (reached : e ≤ m.exponent) :
    m.units = m.significand * 2 ^ (m.exponent - e) * 2 ^ e := by
  rw [Nat.mul_assoc, ← pow_add, Nat.sub_add_cancel reached, units, Nat.pow_eq]

theorem units_injective : Function.Injective units := by
  intro m other same
  have found := (m.covers_units Nat.one_pos).nearest?_eq Nat.one_pos
  rw [same, (other.covers_units Nat.one_pos).nearest?_eq Nat.one_pos] at found
  exact (Option.some_inj.mp found).symm

section

variable (h : 0 < den)

include h

/-- Magnitudes that are no multiple of the last place lie below one that is closer. -/
theorem exists_multiple (num : Nat) (other : Magnitude) :
    ∃ k, other.units = k * 2 ^ lastPlace num den ∨
      ((num : Int) - (k * (den * 2 ^ lastPlace num den) : Nat)).natAbs <
        ((num : Int) - (other.units * den : Nat)).natAbs := by
  rcases Nat.lt_or_ge other.exponent (lastPlace num den) with smaller | reached
  · have below := other.units_lt smaller
    have least : 2 ^ 52 * (den * 2 ^ lastPlace num den) ≤ num := le_of_lastPlace_pos h (by omega)
    have less : other.units * den < 2 ^ 52 * (den * 2 ^ lastPlace num den) := by
      rw [Nat.mul_comm den, ← Nat.mul_assoc]
      exact Nat.mul_lt_mul_of_pos_right below h
    exact ⟨2 ^ 52, .inr (by omega)⟩
  · exact ⟨_, .inl (other.units_eq_mul reached)⟩

theorem nearest_near (num : Nat) (other : Magnitude) :
    ((num : Int) - (nearest num den * den : Nat)).natAbs ≤
      ((num : Int) - (other.units * den : Nat)).natAbs := by
  have step : 0 < den * 2 ^ lastPlace num den := Nat.mul_pos h (Nat.two_pow_pos _)
  obtain ⟨k, multiple | closer⟩ := exists_multiple h num other
  · rw [nearest_mul, multiple, Nat.mul_right_comm, Nat.mul_assoc k]
    exact halfEven_nearest step k
  · rw [nearest_mul]
    exact (halfEven_nearest step k).trans closer.le

theorem significandOf_mod_two_of_tie {other : Magnitude} (apart : nearest num den ≠ other.units)
    (tie : ((num : Int) - (nearest num den * den : Nat)).natAbs =
      ((num : Int) - (other.units * den : Nat)).natAbs) : significandOf num den % 2 = 0 := by
  have step : 0 < den * 2 ^ lastPlace num den := Nat.mul_pos h (Nat.two_pow_pos _)
  rw [nearest_mul] at tie
  obtain ⟨k, multiple | closer⟩ := exists_multiple h num other
  · rw [multiple, Nat.mul_right_comm, Nat.mul_assoc k] at tie
    refine halfEven_mod_two_of_tie step (fun same => apart ?_) tie
    rw [multiple, ← same]
    rfl
  · rw [← tie] at closer
    exact absurd closer (Nat.not_lt.mpr (halfEven_nearest step k))

/-- The significand that is kept is even with the one that was rounded to. -/
theorem significand_mod_two (same : m.units = nearest num den)
    (even : significandOf num den % 2 = 0) : m.significand % 2 = 0 := by
  have normal := m.normal
  have full : significandOf num den ≤ 2 ^ 53 := significandOf_le h
  have step : 0 < 2 ^ lastPlace num den := Nat.two_pow_pos _
  rw [nearest] at same
  rw [Nat.pow_eq] at normal
  rcases Nat.lt_or_ge m.exponent (lastPlace num den) with less | reached
  · have below := m.units_lt less
    have least : 2 ^ 52 ≤ significandOf num den := le_significandOf h (by omega)
    have := Nat.mul_le_mul_right (2 ^ lastPlace num den) least
    omega
  · rw [m.units_eq_mul reached] at same
    have shifted := Nat.eq_of_mul_eq_mul_right step same
    rcases Nat.lt_or_eq_of_le reached with more | equal
    · -- all digits and more: the significand was carried to the next power of two
      have double : 2 ≤ 2 ^ (m.exponent - lastPlace num den) :=
        Nat.le_self_pow (by omega) 2
      have := Nat.mul_le_mul_left m.significand double
      omega
    · rw [← equal, Nat.sub_self, Nat.pow_zero, Nat.mul_one] at shifted
      rw [shifted]
      exact even

/-- From half a last place above the largest magnitude on, numbers round beyond the format. -/
theorem le_nearest_of_limit (reached : (2 ^ 54 - 1) * 2 ^ e * den ≤ num) :
    2 ^ 53 * 2 ^ (e + 1) ≤ nearest num den := by
  have place : lastPlace ((2 ^ 54 - 1) * 2 ^ e * den) den = e + 1 := by
    refine lastPlace_eq h ?_ ?_
    · refine Nat.mul_le_mul_right _ ?_
      rw [Nat.add_comm, pow_add]
      exact Nat.mul_le_mul_right _ (by decide)
    · refine Nat.mul_lt_mul_of_pos_right ?_ h
      rw [Nat.add_comm, pow_add]
      exact Nat.mul_lt_mul_of_pos_right (by decide) (Nat.two_pow_pos e)
  have half : 2 * ((2 ^ 54 - 1) * 2 ^ e * den) =
      2 * ((2 ^ 53 - 1) * (den * 2 ^ (e + 1))) + den * 2 ^ (e + 1) := by ring
  have carry : nearest ((2 ^ 54 - 1) * 2 ^ e * den) den = 2 ^ 53 * 2 ^ (e + 1) := by
    rw [nearest, significandOf, place, halfEven_of_half (Nat.mul_pos h (Nat.two_pow_pos _)) half]
    exact congrArg (· * 2 ^ (e + 1)) (show 2 ^ 53 - 1 + (2 ^ 53 - 1) % 2 = 2 ^ 53 by decide)
  rw [← carry]
  exact nearest_mono h reached

/-- The limit in units. The exponent is a variable, so that nothing evaluates the power. -/
theorem lt_limit_iff (last : 2045 = e + 1) (ratio : q * unitsPerOne * den = num) :
    q < limit ↔ num < (2 ^ 54 - 1) * 2 ^ e * den := by
  have pos : (0 : ℚ) < unitsPerOne * den :=
    mul_pos cast_unitsPerOne_pos (Nat.cast_pos.mpr h)
  have digits : ((2 ^ 54 - 1 : Nat) : ℚ) = 2 ^ 54 - 1 := by norm_num
  have whole : limit * (unitsPerOne * den) = ((2 ^ 54 - 1) * 2 ^ e * den : Nat) := by
    have quarters := limit_mul_unitsPerOne
    rw [last, pow_succ _ e] at quarters
    rw [Nat.cast_mul, Nat.cast_mul, digits, Nat.cast_pow, Nat.cast_ofNat, ← mul_assoc]
    exact congrArg (· * (den : ℚ)) (by linarith)
  rw [← mul_lt_mul_iff_left₀ pos, whole, ← mul_assoc, ratio, Nat.cast_lt]

theorem lt_limit (same : m.units = nearest num den) (ratio : q * unitsPerOne * den = num) :
    q < limit := by
  by_contra beyond
  obtain ⟨e, last⟩ : ∃ e, 2045 = e + 1 := ⟨2044, rfl⟩
  have reached := Nat.not_lt.mp (mt (lt_limit_iff h last ratio).mpr beyond)
  have above := le_nearest_of_limit h reached
  have exponent := m.exponent_le
  have below := m.units_lt (show m.exponent < e + 2 by omega)
  rw [same] at below
  refine absurd above (Nat.not_le.mpr ?_)
  calc nearest num den < 2 ^ 52 * 2 ^ (e + 2) := below
    _ = 2 ^ 53 * 2 ^ (e + 1) := by ring

omit h in
theorem abs_sub_value (ratio : q * unitsPerOne * den = num) (other : Magnitude) :
    |q - other.value| * (unitsPerOne * den) =
      ((num : Int) - (other.units * den : Nat)).natAbs := by
  have nonneg : (0 : ℚ) ≤ unitsPerOne * den := mul_nonneg (Nat.cast_nonneg _) (Nat.cast_nonneg _)
  calc |q - other.value| * (unitsPerOne * den) = |(q - other.value) * (unitsPerOne * den)| := by
        rw [abs_mul, abs_of_nonneg nonneg]
    _ = |(num : ℚ) - other.units * den| := by
        rw [sub_mul, ← mul_assoc, ← mul_assoc, ratio, value_mul_unitsPerOne]
    _ = ((num : Int) - (other.units * den : Nat)).natAbs := by
        rw [Nat.cast_natAbs]
        push_cast
        rfl

theorem closest_of_units (same : m.units = nearest num den)
    (ratio : q * unitsPerOne * den = num) : m.Closest q := by
  have pos : (0 : ℚ) < unitsPerOne * den :=
    mul_pos cast_unitsPerOne_pos (Nat.cast_pos.mpr h)
  refine ⟨lt_limit h same ratio, fun other => ?_, fun other apart tie => ?_⟩
  · refine le_of_mul_le_mul_right ?_ pos
    rw [abs_sub_value ratio, abs_sub_value ratio, same]
    exact Nat.cast_le.mpr (nearest_near h num other)
  · have scaled := congrArg (· * (unitsPerOne * den : ℚ)) tie
    simp only [abs_sub_value ratio, same] at scaled
    have differ : nearest num den ≠ other.units := by
      rw [← same]
      exact fun units => apart (units_injective units).symm
    exact significand_mod_two h same
      (significandOf_mod_two_of_tie h differ (Nat.cast_injective scaled))

end

end Magnitude

namespace Numeral

variable {text : List Char} {n : Numeral} {x : Binary64}

theorem exists_closest (finite : n.nearest.isFinite = true) :
    ∃ m : Magnitude, n.nearest = .finite n.negative m ∧ m.Closest n.size := by
  obtain ⟨m, nearest, units⟩ := isUnits_nearest finite
  exact ⟨m, nearest, Magnitude.closest_of_units n.parts_pos units n.size_mul_parts⟩

/-- The text writes a number in decimal, and this is the finite number that it rounds to. -/
inductive WritesReal (text : List Char) : Binary64 → Prop where
  | rounded {negative : Bool} {q : ℚ} {m : Magnitude} : Writes text negative q → m.Closest q →
      WritesReal text (.finite negative m)

/-- A text is read as a number if and only if it writes one that rounds to it. -/
theorem readFinite?_eq_some_iff : readFinite? text = some x ↔ WritesReal text x := by
  constructor
  · intro h
    obtain ⟨n, read, h⟩ := Option.bind_eq_some_iff.mp h
    split at h
    case isTrue finite =>
      obtain ⟨m, nearest, closest⟩ := exists_closest finite
      rw [nearest] at h
      cases h
      exact .rounded (writes_of_read? read) closest
    case isFalse => cases h
  · rintro ⟨writes, closest⟩
    exact readFinite?_of_closest writes closest

end Numeral

end TraceWeave
