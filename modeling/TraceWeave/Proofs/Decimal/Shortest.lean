import TraceWeave.Proofs.Decimal.Nearest

/-! The shortest digits of a magnitude are owned by it (`has_shortest`): the search takes nothing
else, the exact expansion behind it is the magnitude itself, and dropping final zeros keeps the
number. -/

namespace TraceWeave.Magnitude

open Binary64 Decimal

variable {m : Magnitude} {den : Nat}

def Has (m : Magnitude) (d : Decimal) : Prop := m.owns d.digits d.exponent = true

theorem has_strip {d : Decimal} (fuel : Nat) (h : m.Has d) : m.Has (strip fuel d) := by
  induction fuel generalizing d with
  | zero => exact h
  | succ fuel ih =>
    unfold strip
    split
    case isTrue zeros =>
      refine ih ((owns_shift 1).mp ?_)
      have digits : d.digits / 10 * 10 ^ 1 = d.digits := by omega
      have exponent : d.exponent + 1 - (1 : Nat) = d.exponent := by omega
      simp only [digits, exponent]
      exact h
    case isFalse => exact h

theorem has_trimmed {d : Decimal} (h : m.Has d) : m.Has d.trimmed := has_strip _ h

theorem has_of_onGrid? {p : Int} {d : Decimal} (h : m.onGrid? p = some d) : m.Has d := by
  have chosen (near far : Nat) (h : (if m.owns near p then some ⟨near, p⟩
      else if m.owns far p then some ⟨far, p⟩ else none) = some d) : m.Has d := by
    split at h
    case isTrue owned => cases h; exact owned
    case isFalse =>
      split at h
      case isTrue owned => cases h; exact owned
      case isFalse => cases h
  exact chosen _ _ h

theorem has_expansion (m : Magnitude) (k : Nat) (p : Int) (h : 1074 = k) (h' : p = -k) :
    m.Has ⟨m.units * Nat.pow 5 k, p⟩ := by
  have whole : p.toNat = 0 ∧ (-p).toNat = k := by omega
  have value : m.units * 5 ^ k * 10 ^ 0 * 2 ^ k = m.units * 10 ^ k := by
    have ten : 10 ^ k = 5 ^ k * 2 ^ k := by rw [← Nat.mul_pow]
    rw [ten]; ring
  rw [Has, owns_iff, whole.1, whole.2, unitsPerOne_eq h, Nat.pow_eq, value]
  exact covers_units m (ten_pow_pos k)

theorem has_shortest (m : Magnitude) : m.Has m.shortest := by
  unfold shortest
  dsimp only
  split
  case h_1 d found =>
    obtain ⟨i, -, onGrid⟩ := List.exists_of_findSome?_eq_some found
    exact has_trimmed (has_of_onGrid? onGrid)
  case h_2 =>
    generalize places : 1074 = k
    exact has_trimmed (has_expansion m k (-1074) places (by omega))

end TraceWeave.Magnitude
