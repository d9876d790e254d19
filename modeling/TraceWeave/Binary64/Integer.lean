import TraceWeave.Binary64.Basic
import TraceWeave.Clamped

/-! From binary64 numbers to integers. -/

namespace TraceWeave.Binary64

/-- The quotient of a finite number by one, rounded by `quotient` on its magnitude. -/
def wholePart (quotient : Nat → Nat → Nat) (negative : Bool) (m : Magnitude) : Int :=
  signed negative (quotient m.units unitsPerOne)

/-- The nearest integer, of two equally near the even one. -/
def nearestInt? : Binary64 → Option Int
  | .finite negative m => some (wholePart Rounding.halfEven negative m)
  | _ => none

/-- A number rounded by `quotient` and stopped at the ends of the 64-bit range. -/
def toInt64 (quotient : Nat → Nat → Nat) : Binary64 → Int64
  | .finite negative m => Clamped.ofInt (wholePart quotient negative m)
  | .infinite true => Int64.minValue
  | .infinite false => Int64.maxValue
  | .nan _ => 0

def truncate (x : Binary64) : Int64 := x.toInt64 (· / ·)

/-- Rounds to the nearest integer, of two equally near the one farther from zero. -/
def round (x : Binary64) : Int64 := x.toInt64 Rounding.halfUp

end TraceWeave.Binary64
