/-! Rounding the quotient of two natural numbers to a natural number. -/

namespace TraceWeave.Rounding

/-- The nearest integer, of two equally near the even one. -/
def halfEven (num den : Nat) : Nat :=
  let low := num / den
  let rest := 2 * (num % den)
  if rest < den then low
  else if den < rest then low + 1
  else low + low % 2

/-- The nearest integer, of two equally near the larger one. -/
def halfUp (num den : Nat) : Nat :=
  if 2 * (num % den) < den then num / den else num / den + 1

end TraceWeave.Rounding
