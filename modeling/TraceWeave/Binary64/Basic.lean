import TraceWeave.Rounding

/-! Binary64 numbers, kept exactly.

Every finite number of the format is a whole number of units of `2 ^ -1074`, its smallest
positive number. `units` and `scaled` count them, so sums, products with a ratio and comparisons
are integer arithmetic, followed by one rounding to nearest, ties to even. A number has one
representation here, the sign of zero included, so equality is equality of bits. -/

namespace TraceWeave

/-- A finite magnitude: `significand * 2 ^ exponent` units. -/
structure Magnitude where
  significand : Nat
  exponent : Nat
  significand_lt : significand < Nat.pow 2 53
  exponent_le : exponent ≤ 2045
  normal : exponent = 0 ∨ Nat.pow 2 52 ≤ significand
  deriving DecidableEq

namespace Magnitude

def units (m : Magnitude) : Nat := m.significand * Nat.pow 2 m.exponent

def zero : Magnitude := ⟨0, 0, by decide, by decide, .inl rfl⟩

/-- The magnitude with these fields, where the format has it. -/
def mk? (significand exponent : Nat) : Option Magnitude :=
  if h : significand < Nat.pow 2 53 ∧ exponent ≤ 2045
      ∧ (exponent = 0 ∨ Nat.pow 2 52 ≤ significand) then
    some ⟨significand, exponent, h.1, h.2.1, h.2.2⟩
  else none

/-- The magnitude nearest to `num / den` units, a tie going to the even significand. There is
none from half a last place above the largest magnitude on. -/
def nearest? (num den : Nat) : Option Magnitude :=
  let exponent := (num / den).log2 - 52
  let significand := Rounding.halfEven num (den * Nat.pow 2 exponent)
  if significand = Nat.pow 2 53 then mk? (Nat.pow 2 52) (exponent + 1) else mk? significand exponent

end Magnitude

inductive Binary64 where
  | finite (negative : Bool) (magnitude : Magnitude)
  | infinite (negative : Bool)
  | nan (negative : Bool)
  deriving DecidableEq

namespace Binary64

def zero : Binary64 := .finite false .zero

def isFinite : Binary64 → Bool
  | .finite .. => true
  | _ => false

def isNaN : Binary64 → Bool
  | .nan _ => true
  | _ => false

def signed (negative : Bool) (n : Nat) : Int := if negative then -(n : Int) else n

/-- A finite number in units; the others count as zero. -/
def scaled : Binary64 → Int
  | .finite negative m => signed negative m.units
  | _ => 0

/-- Units in the number one. -/
def unitsPerOne : Nat := Nat.pow 2 1074

/-- The number nearest to `num / den` units of the given sign, infinite beyond the format. -/
def ofUnits (negative : Bool) (num den : Nat) : Binary64 :=
  match Magnitude.nearest? num den with
  | some m => .finite negative m
  | none => .infinite negative

/-- The number nearest to a whole number. -/
def ofInt (n : Int) : Binary64 := ofUnits (n < 0) (n.natAbs * unitsPerOne) 1

def neg : Binary64 → Binary64
  | .finite negative m => .finite (!negative) m
  | .infinite negative => .infinite (!negative)
  | .nan negative => .nan (!negative)

/-- The sum, rounded once. An exact zero is negative only as a sum of negative zeros. -/
def add : Binary64 → Binary64 → Binary64
  | .nan s, _ => .nan s
  | _, .nan s => .nan s
  | .infinite s, .infinite t => if s = t then .infinite s else .nan true
  | .infinite s, .finite .. => .infinite s
  | .finite .., .infinite t => .infinite t
  | .finite s m, .finite t n =>
    let total := signed s m.units + signed t n.units
    if total = 0 then .finite (s && t) .zero else ofUnits (total < 0) total.natAbs 1

/-- The product with the ratio `num / den` of two positive numbers, rounded once. -/
def scale (x : Binary64) (num den : Nat) : Binary64 :=
  match x with
  | .finite negative m => ofUnits negative (m.units * num) den
  | other => other

end Binary64

end TraceWeave
