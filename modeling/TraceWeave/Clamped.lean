/-! Times, durations, frames and thread numbers are 64-bit integers. Arithmetic that leaves
their range stops at the nearer end of it. -/

namespace TraceWeave.Clamped

/-- The 64-bit integer nearest to `n`. -/
def ofInt (n : Int) : Int64 :=
  if n < Int64.minValue.toInt then Int64.minValue
  else if Int64.maxValue.toInt < n then Int64.maxValue
  else Int64.ofInt n

/-- `n` as a 64-bit integer, where it is one. -/
def ofInt? (n : Int) : Option Int64 :=
  if Int64.minValue.toInt ≤ n ∧ n ≤ Int64.maxValue.toInt then some (Int64.ofInt n) else none

def add (a b : Int64) : Int64 := ofInt (a.toInt + b.toInt)

def sub (a b : Int64) : Int64 := ofInt (a.toInt - b.toInt)

theorem toInt_ofInt (n : Int) :
    (ofInt n).toInt = max Int64.minValue.toInt (min n Int64.maxValue.toInt) := by
  have low : Int64.minValue.toInt = -9223372036854775808 := by decide
  have high : Int64.maxValue.toInt = 9223372036854775807 := by decide
  unfold ofInt
  split
  · omega
  · split
    · omega
    · rw [Int64.toInt_ofInt_of_le (by omega) (by omega)]; omega

theorem toInt_add (a b : Int64) :
    (add a b).toInt = max Int64.minValue.toInt (min (a.toInt + b.toInt) Int64.maxValue.toInt) :=
  toInt_ofInt _

theorem toInt_sub (a b : Int64) :
    (sub a b).toInt = max Int64.minValue.toInt (min (a.toInt - b.toInt) Int64.maxValue.toInt) :=
  toInt_ofInt _

end TraceWeave.Clamped
