import TraceWeave.Binary64.Basic
import TraceWeave.Decimal.Layout

/-! Texts of binary64 magnitudes with a fixed number of digits. The exact value is rounded once, a
tie going to the even digit. -/

namespace TraceWeave.Magnitude

/-- A whole number in decimal, with at least so many digits. -/
def padded (n width : Nat) : List Char :=
  let digits := Nat.toDigits 10 n
  Layout.zeros (width - digits.length) ++ digits

/-- Digits with a point in front of the last `places` of them. `pointed` keeps a point that
nothing follows. -/
def withPoint (digits : List Char) (places : Nat) (pointed : Bool) : List Char :=
  let count := digits.length - places
  digits.take count ++ (if places = 0 ∧ ¬ pointed then [] else '.' :: digits.drop count)

/-- Positional text with so many places after the point. -/
def fixed (m : Magnitude) (places : Nat) (pointed : Bool) : List Char :=
  let n := Rounding.halfEven (m.units * Nat.pow 10 places) Binary64.unitsPerOne
  withPoint (padded n (places + 1)) places pointed

/-- The magnitude over a power of ten, as a quotient. -/
def quotient (m : Magnitude) (exponent : Int) : Nat × Nat :=
  (m.units * Nat.pow 10 (-exponent).toNat, Binary64.unitsPerOne * Nat.pow 10 exponent.toNat)

/-- The greatest power of ten that is not above the magnitude. -/
def decade (m : Magnitude) : Int :=
  let estimate : Int := Int.fdiv (((m.units.log2 : Int) - 1074) * 30103) 100000
  let fits (exponent : Int) : Bool :=
    let (num, den) := m.quotient exponent
    den ≤ num
  if fits (estimate + 1) then estimate + 1 else if fits estimate then estimate else estimate - 1

/-- The first `places + 1` digits as a number, rounded, and the exponent of the first of them. -/
def leading (m : Magnitude) (places : Nat) : Nat × Int :=
  if m.units = 0 then (0, 0)
  else
    let exponent := m.decade
    let (num, den) := m.quotient (exponent - places)
    let n := Rounding.halfEven num den
    if Nat.pow 10 (places + 1) ≤ n then (n / 10, exponent + 1) else (n, exponent)

/-- The mark of an exponent, its sign and at least two digits. -/
def exponentText (exponent : Int) : List Char :=
  'e' :: (if exponent < 0 then '-' else '+') :: padded exponent.natAbs 2

/-- Text with one digit before the point, so many after it, and an exponent. -/
def scientific (m : Magnitude) (places : Nat) (pointed : Bool) : List Char :=
  let (n, exponent) := m.leading places
  withPoint (padded n (places + 1)) places pointed ++ exponentText exponent

/-- Zeros at the end of a fraction and a point that nothing follows are dropped. -/
def trimFraction (text : List Char) : List Char :=
  if text.contains '.' then
    match text.reverse.dropWhile (· = '0') with
    | '.' :: rest => rest.reverse
    | rest => rest.reverse
  else text

/-- Text with so many significant digits: positional unless the exponent is small or has more
digits than are shown. `full` keeps zeros at the end. -/
def general (m : Magnitude) (digits : Nat) (full : Bool) : List Char :=
  let count := max digits 1
  let (n, exponent) := m.leading (count - 1)
  if -4 ≤ exponent ∧ exponent < count then
    let text := m.fixed ((count : Int) - 1 - exponent).toNat full
    if full then text else trimFraction text
  else
    let text := withPoint (padded n count) (count - 1) full
    (if full then text else trimFraction text) ++ exponentText exponent

end TraceWeave.Magnitude
