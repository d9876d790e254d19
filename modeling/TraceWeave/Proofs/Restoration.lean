import TraceWeave.Proofs.Microseconds

/-! Which counts of nanoseconds come back from microseconds.

Rounding to microseconds costs up to 500 of the 1024 parts of a nanosecond that their last place
may be large, and the product with 1000 is rounded once more. The count that the product is then
rounded to leads to the same microseconds as the first one did, except when the product is rounded
to halfway between two nanoseconds and goes up (`Overshoots`). It is one nanosecond too large then,
which the microseconds show (`microUnits_restored`, `microUnits_restored_of_overshoots`). -/

namespace TraceWeave

open Magnitude Rounding Binary64

/-! ### The product

`a` is a rounded count of nanoseconds, `nearest a 1000` the microseconds and `thousandfold` of them
the way back, all in units. One last place of the microseconds is `2 ^ e` units. -/

def productPlace (a : Nat) : Nat := lastPlace (nearest a 1000 * 1000) 1

theorem dvd_thousandfold (a : Nat) : 2 ^ productPlace a ∣ thousandfold (nearest a 1000) :=
  Nat.dvd_mul_left _ _

/-- The product is rounded by half of its last place at most. -/
theorem thousandfold_near (a : Nat) :
    2 * thousandfold (nearest a 1000) ≤ 2 * (nearest a 1000 * 1000) + 2 ^ productPlace a ∧
      2 * (nearest a 1000 * 1000) ≤ 2 * thousandfold (nearest a 1000) + 2 ^ productPlace a := by
  have high := nearest_mul_le (nearest a 1000 * 1000) 1
  have low := le_nearest_mul (nearest a 1000 * 1000) Nat.one_pos
  unfold thousandfold productPlace
  omega

theorem lastPlace_mul_two_pow {c den e i : Nat} (h : 0 < den) (pos : 0 < e + i)
    (low : 2 ^ (i + 52) * den ≤ c) (high : c < 2 ^ (i + 53) * den) :
    lastPlace (c * 2 ^ e) den = e + i := by
  obtain ⟨d, hd⟩ : ∃ d, e + i = d + 1 := ⟨e + i - 1, by omega⟩
  rw [hd]
  refine lastPlace_eq h ?_ ?_
  · calc 2 ^ (d + 53) * den = 2 ^ (i + 52) * den * 2 ^ e := by
          rw [show d + 53 = e + (i + 52) by omega, pow_add]; ring
      _ ≤ c * 2 ^ e := Nat.mul_le_mul_right _ low
  · calc c * 2 ^ e < 2 ^ (i + 53) * den * 2 ^ e :=
          Nat.mul_lt_mul_of_pos_right high (Nat.two_pow_pos e)
      _ = 2 ^ (d + 54) * den := by
          rw [show d + 54 = e + (i + 53) by omega, pow_add]; ring

/-- A product away from the middle between multiples of its last place. -/
theorem thousandfold_eq {s t e i : Nat} (pos : 0 < e + i) (low : 2 ^ (i + 52) ≤ 1000 * s)
    (high : 1000 * s < 2 ^ (i + 53)) (below : 2 * (2 ^ i * t) < 2 * (1000 * s) + 2 ^ i)
    (above : 2 * (1000 * s) < 2 * (2 ^ i * t) + 2 ^ i) :
    thousandfold (s * 2 ^ e) = 2 ^ i * t * 2 ^ e := by
  have step : 0 < 2 ^ e := Nat.two_pow_pos e
  have near := Nat.mul_lt_mul_of_pos_right below step
  have near' := Nat.mul_lt_mul_of_pos_right above step
  have place : lastPlace (1000 * s * 2 ^ e) 1 = e + i :=
    lastPlace_mul_two_pow Nat.one_pos pos (by rw [Nat.mul_one]; exact low)
      (by rw [Nat.mul_one]; exact high)
  have grid : 1 * 2 ^ (e + i) = 2 ^ i * 2 ^ e := by ring
  rw [thousandfold, show s * 2 ^ e * 1000 = 1000 * s * 2 ^ e by ring,
    nearest_eq (k := t) place (by rw [grid]; linarith) (by rw [grid]; linarith)]
  ring

section

variable {a e : Nat} (place : lastPlace a 1000 = e)

include place

theorem nearest_eq_significandOf_mul : nearest a 1000 = significandOf a 1000 * 2 ^ e := by
  rw [nearest, place]

theorem le_nearest_thousand (pos : 0 < e) : 1000 * 2 ^ 52 * 2 ^ e ≤ nearest a 1000 * 1000 := by
  have full : 2 ^ 52 ≤ significandOf a 1000 := le_significandOf (by decide) (by omega)
  calc 1000 * 2 ^ 52 * 2 ^ e = 2 ^ 52 * 2 ^ e * 1000 := by ring
    _ ≤ nearest a 1000 * 1000 := by
      rw [nearest, place]
      exact Nat.mul_le_mul_right _ (Nat.mul_le_mul_right _ full)

theorem le_productPlace (pos : 0 < e) : e + 9 ≤ productPlace a := by
  have least := le_nearest_thousand place pos
  have below : nearest a 1000 * 1000 < 2 ^ (productPlace a + 53) * 1 :=
    (lastPlace_le_iff Nat.one_pos).mp (Nat.le_refl _)
  have : 2 ^ (e + 61) < 2 ^ (productPlace a + 53) :=
    calc 2 ^ (e + 61) = 512 * 2 ^ 52 * 2 ^ e := by ring
      _ ≤ 1000 * 2 ^ 52 * 2 ^ e := Nat.mul_le_mul_right _ (by decide)
      _ ≤ nearest a 1000 * 1000 := least
      _ < 2 ^ (productPlace a + 53) * 1 := below
      _ = 2 ^ (productPlace a + 53) := Nat.mul_one _
  have := (Nat.pow_lt_pow_iff_right (by decide)).mp this
  omega

theorem productPlace_le (lower : 1000 * significandOf a 1000 < 2 ^ 62) :
    productPlace a ≤ e + 9 := by
  refine (lastPlace_le_iff Nat.one_pos).mpr ?_
  calc nearest a 1000 * 1000 = 1000 * significandOf a 1000 * 2 ^ e := by
        rw [nearest_eq_significandOf_mul place]; ring
    _ < 2 ^ 62 * 2 ^ e := Nat.mul_lt_mul_of_pos_right lower (Nat.two_pow_pos e)
    _ = 2 ^ (e + 9 + 53) * 1 := by ring

/-- In the lower part of a binade the product is off by a quarter of a last place of the
microseconds at most. -/
theorem nearest_thousandfold_of_lower (pos : 0 < e)
    (lower : 1000 * significandOf a 1000 < 2 ^ 62) :
    nearest (thousandfold (nearest a 1000)) 1000 = nearest a 1000 := by
  have step : 0 < 2 ^ e := Nat.two_pow_pos e
  have least := le_nearest_thousand place pos
  have quarter : 2 ^ productPlace a ≤ 512 * 2 ^ e :=
    calc 2 ^ productPlace a ≤ 2 ^ (e + 9) :=
          Nat.pow_le_pow_right (by decide) (productPlace_le place lower)
      _ = 512 * 2 ^ e := by ring
  have atLeast : 1000 * 2 ^ 52 * 2 ^ e ≤ thousandfold (nearest a 1000) :=
    le_nearest ⟨1000, e + 52, by decide, by ring⟩ Nat.one_pos (by linarith)
  obtain ⟨high, low⟩ := thousandfold_near a
  generalize thousandfold (nearest a 1000) = p at *
  rw [nearest_eq_significandOf_mul place] at high low ⊢
  have samePlace : lastPlace p 1000 = e := by
    obtain ⟨d, rfl⟩ : ∃ d, e = d + 1 := ⟨e - 1, by omega⟩
    refine lastPlace_eq (by decide) ?_ ?_
    · calc 2 ^ (d + 53) * 1000 = 1000 * 2 ^ 52 * 2 ^ (d + 1) := by ring
        _ ≤ p := atLeast
    · have := Nat.mul_le_mul_right (2 ^ (d + 1)) lower
      calc p < 1000 * 2 ^ 53 * 2 ^ (d + 1) := by linarith
        _ = 2 ^ (d + 54) * 1000 := by ring
  exact nearest_eq samePlace (by linarith) (by linarith)

end

section

variable {a c e : Nat}

/-- Microseconds and nanoseconds counted in one last place of the microseconds, which the two differ
by at most half of. -/
theorem significand_near (place : lastPlace (c * 2 ^ e) 1000 = e) :
    2 * (1000 * significandOf (c * 2 ^ e) 1000) ≤ 2 * c + 1000 ∧
      2 * c ≤ 2 * (1000 * significandOf (c * 2 ^ e) 1000) + 1000 := by
  have step : 0 < 2 ^ e := Nat.two_pow_pos e
  have above := nearest_mul_le (c * 2 ^ e) 1000
  have below := le_nearest_mul (c * 2 ^ e) (show 0 < 1000 by decide)
  rw [nearest, place] at above below
  exact ⟨Nat.le_of_mul_le_mul_right (by linarith) step,
    Nat.le_of_mul_le_mul_right (by linarith) step⟩

/-- In the upper part of a binade the product comes back to the count, or stops at the power of two
between them. -/
theorem nearest_thousandfold_of_upper (exact : Exact a) (place : lastPlace a 1000 = e)
    (upper : 2 ^ 62 ≤ 1000 * significandOf a 1000) :
    nearest (thousandfold (nearest a 1000)) 1000 = nearest a 1000 := by
  have step : 0 < 2 ^ e := Nat.two_pow_pos e
  have digits : significandOf a 1000 ≤ 2 ^ 53 := significandOf_le (by decide)
  rcases Nat.lt_or_ge a (2 ^ 62 * 2 ^ e) with under | beyond
  · have error := nearest_mul_le a 1000
    rw [place, nearest_eq_significandOf_mul place] at error
    have near : 1000 * significandOf a 1000 < 2 ^ 62 + 512 := by
      refine Nat.lt_of_mul_lt_mul_right (a := 2 ^ e) ?_
      linarith
    have power : thousandfold (nearest a 1000) = 2 ^ 10 * 2 ^ 52 * 2 ^ e := by
      rw [nearest_eq_significandOf_mul place]
      exact thousandfold_eq (by omega) upper (by omega) (by omega) (by omega)
    have self := nearest_mul_self (exact_nearest a (show 0 < 1000 by decide))
      (show 0 < 1000 by decide)
    refine Nat.le_antisymm ?_ (nearest_mono (by decide) (by rw [power]; omega))
    refine (nearest_mono (by decide) ?_).trans self.le
    rw [power, nearest_eq_significandOf_mul place]
    have := Nat.mul_le_mul_right (2 ^ e) upper
    linarith
  · obtain ⟨t, count⟩ : 2 ^ (e + 10) ∣ a := exact.dvd (by
      calc 2 ^ (e + 10 + 52) = 2 ^ 62 * 2 ^ e := by ring
        _ ≤ a := beyond)
    replace count : a = 2 ^ 10 * t * 2 ^ e := by rw [count]; ring
    subst count
    obtain ⟨above, below⟩ := significand_near place
    have back : thousandfold (nearest (2 ^ 10 * t * 2 ^ e) 1000) = 2 ^ 10 * t * 2 ^ e := by
      rw [nearest_eq_significandOf_mul place]
      exact thousandfold_eq (by omega) upper (by omega) (by omega) (by omega)
    rw [back]

theorem nearest_thousandfold (exact : Exact a) (place : lastPlace a 1000 = e) (pos : 0 < e) :
    nearest (thousandfold (nearest a 1000)) 1000 = nearest a 1000 := by
  rcases Nat.lt_or_ge (1000 * significandOf a 1000) (2 ^ 62) with lower | upper
  · exact nearest_thousandfold_of_lower place pos lower
  · exact nearest_thousandfold_of_upper exact place upper

end

/-! ### The half -/

/-- Counts of nanoseconds that come back one too large. They are about 51 days long, where the last
place of the microseconds is 1/1024, and rounding to it has added more than a quarter of a
nanosecond. -/
def Overshoots (k : Nat) : Prop :=
  1000 * 2 ^ 42 ≤ k ∧ k < 2 ^ 52 ∧ 500 < 1024 * k % 1000 ∧ 1024 * k % 1000 < 744

instance : DecidablePred Overshoots := fun _ => inferInstanceAs (Decidable (_ ∧ _))

theorem lastPlace_pos {k : Nat} (h : 0 < k) : 0 < lastPlace (k * unitsPerOne) 1000 := by
  rw [lt_lastPlace_iff (by decide), Nat.zero_add]
  exact large_unitsPerOne.trans (Nat.le_mul_of_pos_left _ h)

section

variable {k e : Nat} (one : unitsPerOne = 2 ^ (e + 10))

include one

theorem mul_unitsPerOne_eq (k : Nat) : k * unitsPerOne = 1024 * k * 2 ^ e := by
  rw [one]; ring

omit one in
/-- A product halfway to the next nanosecond is not the result of a tie. -/
theorem quarter_of_half {s : Nat} (place : lastPlace (s * 2 ^ e * 1000) 1 = e + 9)
    (half : thousandfold (s * 2 ^ e) = (2 * k + 1) * 2 ^ (e + 9)) : 1024 * k + 256 < 1000 * s := by
  have high := nearest_mul_le (s * 2 ^ e * 1000) 1
  change 2 * (thousandfold (s * 2 ^ e) * 1) ≤ _ at high
  have enough : 1024 * k + 256 ≤ 1000 * s := by
    refine Nat.le_of_mul_le_mul_right ?_ (Nat.two_pow_pos e)
    rw [half, place, show 2 ^ (e + 9) = 512 * 2 ^ e by ring] at high
    linarith
  refine Nat.lt_of_le_of_ne enough fun tie => ?_
  have even : significandOf (s * 2 ^ e * 1000) 1 = 2 * k := by
    rw [significandOf, place, halfEven_of_half (k := 2 * k) (by positivity)]
    · omega
    · calc 2 * (s * 2 ^ e * 1000) = 2 * (1000 * s * 2 ^ e) := by ring
        _ = 2 * (2 * k * (1 * 2 ^ (e + 9))) + 1 * 2 ^ (e + 9) := by rw [← tie]; ring
  rw [thousandfold, nearest, even, place] at half
  have := Nat.eq_of_mul_eq_mul_right (Nat.two_pow_pos (e + 9)) half
  omega

/-- Only counts that overshoot lead to a product halfway to the next nanosecond. -/
theorem overshoots_of_half (place : lastPlace (k * unitsPerOne) 1000 = e) (pos : 0 < e)
    (same : productPlace (k * unitsPerOne) = e + 9)
    (half : thousandfold (nearest (k * unitsPerOne) 1000) = (2 * k + 1) * 2 ^ (e + 9)) :
    Overshoots k := by
  have step : 0 < 2 ^ e := Nat.two_pow_pos e
  have least : 2 ^ 52 * (1000 * 2 ^ e) ≤ k * unitsPerOne := by
    rw [← place]
    exact le_of_lastPlace_pos (by decide) (by omega)
  have below := (lastPlace_le_iff Nat.one_pos).mp same.le
  rw [productPlace, nearest_eq_significandOf_mul place] at same
  rw [nearest_eq_significandOf_mul place] at half below
  rw [mul_unitsPerOne_eq one] at place least half same below
  obtain ⟨above, -⟩ := significand_near place
  have quarter := quarter_of_half same half
  generalize significandOf (1024 * k * 2 ^ e) 1000 = s at *
  have lower : 1000 * s < 2 ^ 62 := by
    refine Nat.lt_of_mul_lt_mul_right (a := 2 ^ e) ?_
    calc 1000 * s * 2 ^ e = s * 2 ^ e * 1000 := by ring
      _ < 2 ^ (e + 9 + 53) * 1 := below
      _ = 2 ^ 62 * 2 ^ e := by ring
  have start : 2 ^ 52 * 1000 ≤ 1024 * k := by
    refine Nat.le_of_mul_le_mul_right ?_ step
    linarith
  -- the microseconds are too large by as much as is left over of the count
  have rest : 1024 * k % 1000 = 1000 - (1000 * s - 1024 * k) := by
    rw [show 1024 * k = 1000 - (1000 * s - 1024 * k) + 1000 * (s - 1) by omega,
      Nat.add_mul_mod_self_left, Nat.mod_eq_of_lt (by omega)]
    omega
  exact ⟨by omega, by omega, by omega, by omega⟩

/-- The microseconds of a count that overshoots, in last places. -/
theorem Overshoots.exists_significand (h : Overshoots k) (pos : 0 < e) :
    ∃ s, nearest (k * unitsPerOne) 1000 = s * 2 ^ e ∧
      1024 * k + 256 < 1000 * s ∧ 1000 * s < 1024 * k + 500 := by
  obtain ⟨start, stop, low, high⟩ := h
  have place : lastPlace (1024 * k * 2 ^ e) 1000 = e :=
    lastPlace_mul_two_pow (i := 0) (by decide) pos (by omega) (by omega)
  obtain ⟨above, below⟩ := significand_near place
  have split := Nat.div_add_mod (1024 * k) 1000
  have up : significandOf (1024 * k * 2 ^ e) 1000 = 1024 * k / 1000 + 1 := by omega
  rw [mul_unitsPerOne_eq one]
  exact ⟨_, nearest_eq_significandOf_mul place, by omega, by omega⟩

theorem Overshoots.halfUp (h : Overshoots k) (pos : 0 < e) :
    halfUp (thousandfold (nearest (k * unitsPerOne) 1000)) unitsPerOne = k + 1 := by
  obtain ⟨s, image, above, below⟩ := h.exists_significand one pos
  obtain ⟨start, stop, -⟩ := h
  have product : thousandfold (s * 2 ^ e) = 2 ^ 9 * (2 * k + 1) * 2 ^ e :=
    thousandfold_eq (by omega) (by omega) (by omega) (by omega) (by omega)
  rw [image, product, show 2 ^ 9 * (2 * k + 1) * 2 ^ e = 512 * (2 * k + 1) * 2 ^ e by ring]
  have step : 0 < 2 ^ e := Nat.two_pow_pos e
  have count : unitsPerOne = 1024 * 2 ^ e := by rw [one]; ring
  exact halfUp_eq (by rw [count]; linarith) (by rw [count]; linarith)

/-- The nanosecond after a count that overshoots has other microseconds. -/
theorem Overshoots.nearest_succ (h : Overshoots k) (pos : 0 < e) :
    nearest ((k + 1) * unitsPerOne) 1000 = nearest (k * unitsPerOne) 1000 + 2 ^ e := by
  obtain ⟨s, image, above, below⟩ := h.exists_significand one pos
  obtain ⟨start, stop, -⟩ := h
  have step : 0 < 2 ^ e := Nat.two_pow_pos e
  have near := Nat.mul_lt_mul_of_pos_right above step
  have near' := Nat.mul_lt_mul_of_pos_right below step
  have next : lastPlace (1024 * (k + 1) * 2 ^ e) 1000 = e :=
    lastPlace_mul_two_pow (i := 0) (by decide) pos (by omega) (by omega)
  rw [image, mul_unitsPerOne_eq one,
    nearest_eq (k := s + 1) next (by linarith) (by linarith)]
  ring

end

theorem thousand_mul_lt {e f : Nat} (le : e + 9 ≤ f) : 1000 * 2 ^ e < 2 * 2 ^ f :=
  calc 1000 * 2 ^ e < 1024 * 2 ^ e := Nat.mul_lt_mul_of_pos_right (by decide) (Nat.two_pow_pos e)
    _ = 2 * 2 ^ (e + 9) := by ring
    _ ≤ 2 * 2 ^ f := Nat.mul_le_mul_left 2 (Nat.pow_le_pow_right (by decide) le)

section

variable {k e u : Nat} (one : unitsPerOne = 2 ^ (u + 1))
  (place : lastPlace (k * unitsPerOne) 1000 = e) (pos : 0 < e)

include place

/-- The product misses the count by half of each last place at most. -/
theorem thousandfold_near_count :
    2 * thousandfold (nearest (k * unitsPerOne) 1000) ≤
        2 * (k * unitsPerOne) + 1000 * 2 ^ e + 2 ^ productPlace (k * unitsPerOne) ∧
      2 * (k * unitsPerOne) ≤ 2 * thousandfold (nearest (k * unitsPerOne) 1000) +
        1000 * 2 ^ e + 2 ^ productPlace (k * unitsPerOne) := by
  have high := nearest_mul_le (k * unitsPerOne) 1000
  have low := le_nearest_mul (k * unitsPerOne) (show 0 < 1000 by decide)
  obtain ⟨high', low'⟩ := thousandfold_near (k * unitsPerOne)
  rw [place] at high low
  omega

include one pos

/-- A product in halves of nanoseconds is the count, or half a nanosecond away from it, and only
counts that overshoot have one above. -/
theorem halfUp_thousandfold_of_half (less : ¬ Overshoots k)
    (fraction : ¬ unitsPerOne ∣ thousandfold (nearest (k * unitsPerOne) 1000))
    (same : productPlace (k * unitsPerOne) = u) :
    halfUp (thousandfold (nearest (k * unitsPerOne) 1000)) unitsPerOne = k := by
  have least := le_productPlace place pos
  obtain ⟨high, low⟩ := thousandfold_near_count place
  obtain ⟨m, product⟩ := dvd_thousandfold (k * unitsPerOne)
  rw [same] at least high low product
  rw [Nat.mul_comm (2 ^ u)] at product
  have small := thousand_mul_lt least
  have count : k * unitsPerOne = 2 * k * 2 ^ u := by rw [one]; ring
  have double : unitsPerOne = 2 * 2 ^ u := by rw [one]; ring
  have step : 0 < 2 ^ u := Nat.two_pow_pos u
  have above : m < 2 * k + 2 := by
    refine Nat.lt_of_mul_lt_mul_right (a := 2 ^ u) ?_
    linarith
  have below : 2 * k < m + 2 := by
    refine Nat.lt_of_mul_lt_mul_right (a := 2 ^ u) ?_
    linarith
  obtain up | rfl | rfl : m + 1 = 2 * k ∨ m = 2 * k ∨ m = 2 * k + 1 := by omega
  · have := congrArg (· * 2 ^ u) up
    exact halfUp_eq (by linarith) (by linarith)
  · exact absurd ⟨k, by rw [product, ← count, Nat.mul_comm]⟩ fraction
  · have : 2 ^ u < 2 ^ (e + 10) :=
      calc 2 ^ u ≤ 1000 * 2 ^ e := by linarith
        _ < 1024 * 2 ^ e := Nat.mul_lt_mul_of_pos_right (by decide) (Nat.two_pow_pos e)
        _ = 2 ^ (e + 10) := by ring
    have := (Nat.pow_lt_pow_iff_right (by decide)).mp this
    obtain rfl : u = e + 9 := by omega
    exact absurd (overshoots_of_half one place pos same product) less

end

/-- A product between whole nanoseconds leads back to the count, unless that overshoots. -/
theorem halfUp_thousandfold {k : Nat} (h : 0 < k) (less : ¬ Overshoots k)
    (fraction : ¬ unitsPerOne ∣ thousandfold (nearest (k * unitsPerOne) 1000)) :
    halfUp (thousandfold (nearest (k * unitsPerOne) 1000)) unitsPerOne = k := by
  obtain ⟨u, -, -, one⟩ := exists_unitsPerOne_eq
  have pos := lastPlace_pos h
  obtain ⟨e, place⟩ : ∃ e, lastPlace (k * unitsPerOne) 1000 = e := ⟨_, rfl⟩
  rw [place] at pos
  -- the last place of the product is half a nanosecond at most
  have within : productPlace (k * unitsPerOne) ≤ u := by
    by_contra beyond
    have whole : 2 ^ (u + 1) ∣ thousandfold (nearest (k * unitsPerOne) 1000) :=
      (Nat.pow_dvd_pow 2 (Nat.not_le.mp beyond)).trans (dvd_thousandfold _)
    rw [← one] at whole
    exact fraction whole
  rcases Nat.lt_or_eq_of_le within with finer | same
  · have least := le_productPlace place pos
    obtain ⟨high, low⟩ := thousandfold_near_count place
    generalize productPlace (k * unitsPerOne) = f at *
    have small := thousand_mul_lt least
    have quarter : 4 * 2 ^ f ≤ unitsPerOne :=
      calc 4 * 2 ^ f = 2 ^ (f + 2) := by ring
        _ ≤ 2 ^ (u + 1) := Nat.pow_le_pow_right (by decide) (by omega)
        _ = unitsPerOne := one.symm
    exact halfUp_eq (by omega) (by omega)
  · exact halfUp_thousandfold_of_half one place pos less fraction same

/-! ### The count -/

section

variable {k n : Nat}

theorem microUnits_eq (exact : Exact (k * unitsPerOne)) :
    microUnits k = nearest (k * unitsPerOne) 1000 := by
  rw [microUnits, wholeUnits_eq exact]

/-- The count that the product is rounded to leads to the same microseconds. -/
theorem microUnits_halfUp (exact : Exact (k * unitsPerOne)) (h : 0 < k) (less : ¬ Overshoots k) :
    microUnits (halfUp (thousandfold (microUnits k)) unitsPerOne) = microUnits k := by
  have image := microUnits_eq exact
  by_cases whole : unitsPerOne ∣ thousandfold (microUnits k)
  · obtain ⟨j, product⟩ := whole
    rw [Nat.mul_comm] at product
    have exactProduct : Exact (j * unitsPerOne) := product ▸ exact_nearest _ Nat.one_pos
    rw [product, halfUp_mul j unitsPerOne_pos, microUnits_eq exactProduct, ← product, image]
    exact nearest_thousandfold exact rfl (lastPlace_pos h)
  · rw [image] at whole ⊢
    rw [halfUp_thousandfold h less whole, image]

theorem microUnits_restored_of_exact (exact : Exact (k * unitsPerOne)) (h : 0 < k)
    (less : ¬ Overshoots k) (le : k ≤ 2 ^ 63) :
    microUnits (restored (microUnits k)) = microUnits k := by
  have back := microUnits_halfUp exact h less
  rw [restored]
  generalize halfUp (thousandfold (microUnits k)) unitsPerOne = j at back
  rcases Nat.lt_or_ge j (2 ^ 63) with inside | beyond
  · rw [Nat.min_eq_left (by omega), back]
  · -- the count stops at the largest one, which leads to the same microseconds as the next
    rw [Nat.min_eq_right (by omega), microUnits_max]
    exact Nat.le_antisymm ((microUnits_mono beyond).trans back.le) (microUnits_mono le)

/-- A count counts only as far as the format has it. It has all of the small ones. -/
theorem exists_exact (le : n ≤ 2 ^ 63) :
    ∃ k, Exact (k * unitsPerOne) ∧ k ≤ 2 ^ 63 ∧ (k = n ∨ 2 ^ 53 ≤ k) ∧
      microUnits n = microUnits k := by
  obtain ⟨u, -, -, one⟩ := exists_unitsPerOne_eq
  rcases Nat.lt_or_ge n (2 ^ 53) with small | large
  · exact ⟨n, ⟨n, u + 1, small, by rw [one]⟩, le, .inl rfl, rfl⟩
  · obtain ⟨k, rounded⟩ := dvd_wholeUnits n
    rw [Nat.mul_comm] at rounded
    have exact : Exact (k * unitsPerOne) := rounded ▸ exact_wholeUnits n
    have above := wholeUnits_mono large
    have below := wholeUnits_le le
    rw [wholeUnits_eq ⟨2 ^ 52, u + 2, by decide, by rw [one]; ring⟩, rounded] at above
    rw [rounded] at below
    refine ⟨k, exact, Nat.le_of_mul_le_mul_right below unitsPerOne_pos,
      .inr (Nat.le_of_mul_le_mul_right above unitsPerOne_pos), ?_⟩
    rw [microUnits, microUnits, rounded, wholeUnits_eq exact]

/-- Taken to microseconds and back, a count leads to the same microseconds again, unless it
overshoots. -/
theorem microUnits_restored (h : 0 < n) (le : n ≤ 2 ^ 63) (less : ¬ Overshoots n) :
    microUnits (restored (microUnits n)) = microUnits n := by
  obtain ⟨k, exact, bound, same | large, image⟩ := exists_exact le
  · exact microUnits_restored_of_exact (same ▸ exact) h less le
  · rw [image]
    refine microUnits_restored_of_exact exact (by omega) (fun ⟨_, below, _⟩ => ?_) bound
    omega

theorem microUnits_restored_of_overshoots (h : Overshoots n) :
    1024 * microUnits (restored (microUnits n)) = 1024 * microUnits n + unitsPerOne := by
  obtain ⟨start, stop, -⟩ := id h
  obtain ⟨u, hu, -, one⟩ := exists_unitsPerOne_eq
  obtain ⟨e, rfl⟩ : ∃ e, u = e + 9 := ⟨u - 9, by omega⟩
  have format (k : Nat) (small : k < 2 ^ 53) : Exact (k * unitsPerOne) :=
    ⟨k, e + 9 + 1, small, by rw [one]⟩
  rw [microUnits_eq (format n (by omega)), restored, h.halfUp one (by omega),
    Nat.min_eq_left (by omega), microUnits_eq (format (n + 1) (by omega)),
    h.nearest_succ one (by omega), one]
  ring

/-- Taken to microseconds, back and to microseconds again, no count gets smaller. -/
theorem microUnits_le_restored (le : n ≤ 2 ^ 63) :
    microUnits n ≤ microUnits (restored (microUnits n)) := by
  rcases Nat.eq_zero_or_pos n with rfl | pos
  · rw [microUnits_zero]
    exact Nat.zero_le _
  · by_cases beyond : Overshoots n
    · have := microUnits_restored_of_overshoots beyond
      omega
    · exact (microUnits_restored pos le beyond).ge

theorem restored_pos (h : 0 < n) (le : n ≤ 2 ^ 63) : 0 < restored (microUnits n) := by
  by_contra none
  have back := microUnits_le_restored le
  rw [Nat.eq_zero_of_not_pos none, microUnits_zero] at back
  have := microUnits_pos h
  omega

end

end TraceWeave
