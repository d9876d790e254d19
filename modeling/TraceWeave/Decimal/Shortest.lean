import TraceWeave.Binary64.Basic

/-! The fewest decimal digits that read back as a given magnitude.

The reals that round to a magnitude form an interval; its ends belong to it when the significand
is even. On the grid of multiples of `10 ^ p` only the two neighbours of the magnitude can lie
there, so the search goes from a coarse grid to finer ones and takes the first that meets the
interval. Everything is compared as whole numbers of quarters of a unit. -/

namespace TraceWeave

/-- `digits * 10 ^ exponent`. -/
structure Decimal where
  digits : Nat
  exponent : Int
  deriving DecidableEq, Repr

namespace Decimal

/-- The same number without final zeros in its digits, by at most `fuel` divisions. -/
def strip : Nat → Decimal → Decimal
  | 0, d => d
  | fuel + 1, d =>
    if d.digits ≠ 0 ∧ d.digits % 10 = 0 then strip fuel ⟨d.digits / 10, d.exponent + 1⟩ else d

def trimmed (d : Decimal) : Decimal := strip (d.digits.log2 + 1) d

end Decimal

namespace Magnitude

/-- Quarters of a unit in the number one. -/
def quartersPerOne : Nat := Nat.pow 2 1076

/-- The lower end, in quarters. Below a power of two the format is twice as fine. -/
def low (m : Magnitude) : Nat :=
  if m.significand = Nat.pow 2 52 ∧ m.exponent ≠ 0 then 4 * m.units - Nat.pow 2 m.exponent
  else 4 * m.units - 2 * Nat.pow 2 m.exponent

/-- The upper end, in quarters. -/
def high (m : Magnitude) : Nat := 4 * m.units + 2 * Nat.pow 2 m.exponent

/-- Whether `q * 10 ^ p` rounds to the magnitude. -/
def owns (m : Magnitude) (q : Nat) (p : Int) : Bool :=
  let point := q * Nat.pow 10 p.toNat * quartersPerOne
  let grid := Nat.pow 10 (-p).toNat
  if m.significand % 2 = 0 then decide (m.low * grid ≤ point ∧ point ≤ m.high * grid)
  else decide (m.low * grid < point ∧ point < m.high * grid)

/-- The neighbour of the magnitude on the grid of `10 ^ p` that rounds to it: the nearer one,
of two equally near the even one, or else the other. -/
def onGrid? (m : Magnitude) (p : Int) : Option Decimal :=
  let num := 4 * m.units * Nat.pow 10 (-p).toNat
  let den := quartersPerOne * Nat.pow 10 p.toNat
  let near := Rounding.halfEven num den
  let far := if near = num / den then near + 1 else num / den
  if m.owns near p then some ⟨near, p⟩
  else if m.owns far p then some ⟨far, p⟩
  else none

/-- A grid too coarse to be met, unless by its smallest multiple. -/
def coarsest (m : Magnitude) : Int :=
  Int.fdiv (((m.high.log2 : Int) - 1075) * 30103) 100000 + 1

/-- The shortest decimal that rounds to the magnitude. Seventeen digits always suffice; the
exact expansion stands behind the search. -/
def shortest (m : Magnitude) : Decimal :=
  let top := m.coarsest
  match (List.range 20).findSome? (fun (i : Nat) => m.onGrid? (top - i)) with
  | some d => d.trimmed
  | none => Decimal.trimmed ⟨m.units * Nat.pow 5 1074, -1074⟩

end Magnitude

end TraceWeave
