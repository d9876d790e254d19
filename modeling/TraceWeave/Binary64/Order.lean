import TraceWeave.Binary64.Basic

/-! Comparison of binary64 numbers. `lt` is numeric: zeros are equal whatever their sign and
nothing is below or above a nan. `rank` puts all numbers in one line, negative zero just before
positive zero and the nans at the ends. -/

namespace TraceWeave.Binary64

/-- Where a number stands among the others, in units. All finite numbers are nearer to zero
than `2 ^ 2098`, the place of infinity. -/
def position : Binary64 → Int
  | .finite negative m => signed negative m.units
  | .infinite negative => signed negative (Nat.pow 2 2098)
  | .nan negative => signed negative (Nat.pow 2 2099)

def lt (x y : Binary64) : Bool := !x.isNaN && !y.isNaN && decide (x.position < y.position)

def isNegative (x : Binary64) : Bool := x.lt zero

/-- The place in the total order of all numbers. -/
def rank (x : Binary64) : Int :=
  if x = .finite true .zero then -1 else 2 * x.position

end TraceWeave.Binary64
