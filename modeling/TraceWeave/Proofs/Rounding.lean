import Mathlib.Tactic.Ring
import TraceWeave.Rounding

/-! Both roundings of a quotient stay within half of the divisor, keep the order and leave whole
quotients alone. For `halfUp` all of this is one equivalence, `le_halfUp_iff`. -/

namespace TraceWeave.Rounding

variable {num num' den k : Nat}

theorem halfEven_eq_or (num den : Nat) :
    halfEven num den = num / den ∧ 2 * (num % den) ≤ den ∨
      halfEven num den = num / den + 1 ∧ den ≤ 2 * (num % den) := by
  simp only [halfEven]
  split
  · left; omega
  · split
    · right; omega
    · rcases Nat.mod_two_eq_zero_or_one (num / den) with even | odd
      · left; omega
      · right; omega

theorem halfEven_mul_le (num den : Nat) : 2 * (halfEven num den * den) ≤ 2 * num + den := by
  have split := Nat.div_add_mod' num den
  rcases halfEven_eq_or num den with ⟨low, _⟩ | ⟨high, near⟩
  · rw [low]; omega
  · rw [high, Nat.succ_mul (num / den)]; omega

theorem le_halfEven_mul (num : Nat) (h : 0 < den) :
    2 * num ≤ 2 * (halfEven num den * den) + den := by
  have split := Nat.div_add_mod' num den
  have := Nat.mod_lt num h
  rcases halfEven_eq_or num den with ⟨low, near⟩ | ⟨high, _⟩
  · rw [low]; omega
  · rw [high, Nat.succ_mul (num / den)]; omega

/-- Less than half of the divisor away from a multiple, the quotient rounds to its factor. -/
theorem halfEven_eq (below : 2 * (k * den) < 2 * num + den) (above : 2 * num < 2 * (k * den) + den) :
    halfEven num den = k := by
  have low := halfEven_mul_le num den
  have high : 2 * num ≤ 2 * (halfEven num den * den) + den := le_halfEven_mul num (by omega)
  have notAbove : halfEven num den * den < (k + 1) * den := by rw [Nat.succ_mul k]; omega
  have notBelow : k * den < (halfEven num den + 1) * den := by
    rw [Nat.succ_mul (halfEven num den)]; omega
  have := Nat.lt_of_mul_lt_mul_right notAbove
  have := Nat.lt_of_mul_lt_mul_right notBelow
  omega

/-- Half of the divisor above a multiple, the quotient rounds to an even number. -/
theorem halfEven_of_half (h : 0 < den) (half : 2 * num = 2 * (k * den) + den) :
    halfEven num den = k + k % 2 := by
  have split := Nat.div_add_mod' num den
  have quotient : num / den = k :=
    Nat.div_eq_of_lt_le (by omega) (by rw [Nat.succ_mul k]; omega)
  rw [quotient] at split
  simp only [halfEven, quotient]
  split
  · omega
  · split
    · omega
    · rfl

/-- A quotient halfway between two numbers rounds to the even one. -/
theorem halfEven_mod_two (h : 0 < den) (half : 2 * num = 2 * (halfEven num den * den) + den ∨
    2 * (halfEven num den * den) = 2 * num + den) : halfEven num den % 2 = 0 := by
  rcases half with above | below
  · have up := halfEven_of_half h above
    omega
  · cases rounded : halfEven num den with
    | zero => rfl
    | succ j =>
      rw [rounded, Nat.succ_mul j] at below
      have up : halfEven num den = j + j % 2 := halfEven_of_half h (by omega)
      omega

theorem mul_add_le_of_ne {j : Nat} (den : Nat) (apart : j ≠ k) :
    j * den + den ≤ k * den ∨ k * den + den ≤ j * den := by
  rcases Nat.lt_or_gt_of_ne apart with less | more
  · exact .inl (Nat.succ_mul j den ▸ Nat.mul_le_mul_right den less)
  · exact .inr (Nat.succ_mul k den ▸ Nat.mul_le_mul_right den more)

/-- No multiple of the divisor is closer than the rounded one. -/
theorem halfEven_nearest (h : 0 < den) (k : Nat) :
    ((num : Int) - (halfEven num den * den : Nat)).natAbs ≤
      ((num : Int) - (k * den : Nat)).natAbs := by
  have high := halfEven_mul_le num den
  have low := le_halfEven_mul num h
  by_cases same : halfEven num den = k
  · rw [same]
  · rcases mul_add_le_of_ne den same with below | above <;> omega

/-- Of two multiples that are equally close, the rounded one is even. -/
theorem halfEven_mod_two_of_tie (h : 0 < den) (apart : halfEven num den ≠ k)
    (tie : ((num : Int) - (halfEven num den * den : Nat)).natAbs =
      ((num : Int) - (k * den : Nat)).natAbs) : halfEven num den % 2 = 0 := by
  have high := halfEven_mul_le num den
  have low := le_halfEven_mul num h
  refine halfEven_mod_two h ?_
  rcases mul_add_le_of_ne den apart with below | above <;> omega

/-- An even number is what all quotients up to half of the divisor away from its multiple
round to. -/
theorem halfEven_eq_of_even (h : 0 < den) (even : k % 2 = 0)
    (below : 2 * (k * den) ≤ 2 * num + den) (above : 2 * num ≤ 2 * (k * den) + den) :
    halfEven num den = k := by
  rcases Nat.lt_or_eq_of_le below with below | tie
  · rcases Nat.lt_or_eq_of_le above with above | tie
    · exact halfEven_eq below above
    · rw [halfEven_of_half h tie, even, Nat.add_zero]
  · cases k with
    | zero => omega
    | succ j =>
      have half : 2 * num = 2 * (j * den) + den := by rw [Nat.succ_mul j] at tie; omega
      rw [halfEven_of_half h half]
      omega

theorem halfEven_mul (k : Nat) (h : 0 < den) : halfEven (k * den) den = k :=
  halfEven_eq (by omega) (by omega)

theorem halfEven_mono (h : 0 < den) (le : num ≤ num') : halfEven num den ≤ halfEven num' den := by
  rcases Nat.lt_or_eq_of_le le with lt | rfl
  · have low := halfEven_mul_le num den
    have high := le_halfEven_mul num' h
    have : halfEven num den * den < (halfEven num' den + 1) * den := by
      rw [Nat.succ_mul (halfEven num' den)]; omega
    have := Nat.lt_of_mul_lt_mul_right this
    omega
  · exact Nat.le_refl _

theorem le_halfUp_iff (h : 0 < den) : k ≤ halfUp num den ↔ 2 * (k * den) ≤ 2 * num + den := by
  have quotient : halfUp num den = (2 * num + den) / (2 * den) := by
    have split := Nat.div_add_mod num den
    have rest := Nat.mod_lt num h
    have shape : 2 * num + den = 2 * (num % den) + den + 2 * den * (num / den) := by
      rw [Nat.mul_assoc]; omega
    rw [shape, Nat.add_mul_div_left _ _ (by omega)]
    unfold halfUp
    split
    · have none : (2 * (num % den) + den) / (2 * den) = 0 := Nat.div_eq_of_lt (by omega)
      omega
    · have one : (2 * (num % den) + den) / (2 * den) = 1 :=
        Nat.div_eq_of_lt_le (by omega) (by omega)
      omega
  rw [quotient, Nat.le_div_iff_mul_le (by omega), show k * (2 * den) = 2 * (k * den) by ring]

/-- Up to half of the divisor below a multiple and less than that above it, the quotient rounds to
its factor. -/
theorem halfUp_eq (below : 2 * (k * den) ≤ 2 * num + den) (above : 2 * num < 2 * (k * den) + den) :
    halfUp num den = k := by
  have pos : 0 < den := by omega
  have enough := (le_halfUp_iff pos).mpr below
  have notMore : ¬ k + 1 ≤ halfUp num den := fun more => by
    have := (le_halfUp_iff pos).mp more
    rw [Nat.succ_mul k] at this
    omega
  omega

theorem halfUp_mul (k : Nat) (h : 0 < den) : halfUp (k * den) den = k :=
  halfUp_eq (by omega) (by omega)

end TraceWeave.Rounding
