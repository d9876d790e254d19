import TraceWeave.Decimal.Shortest

/-! Texts of binary64 numbers, by the shortest digits. A layout says which numbers are written
positionally and what a whole number shows after its last digit. -/

namespace TraceWeave

structure Layout where
  /-- Whether a number with so many digits before the point is written positionally. A negative
  count is a number of zeros just after the point. -/
  positional : Int → Bool
  /-- What follows the digits of a whole number that is written positionally. -/
  wholeEnd : List Char

namespace Layout

/-- Documents: positional from 0.00001 to below `10 ^ 16`, and a whole number keeps one zero
after the point. -/
def document : Layout := ⟨fun places => decide (-5 < places ∧ places ≤ 16), ".0".toList⟩

/-- Messages: positional throughout, a whole number without a point. -/
def message : Layout := ⟨fun _ => true, []⟩

def zeros (n : Nat) : List Char := List.replicate n '0'

/-- Digits with the point after the first `places` of them, filled up with zeros. -/
def positionalText (layout : Layout) (digits : List Char) (places : Int) : List Char :=
  if places ≤ 0 then "0.".toList ++ zeros (-places).toNat ++ digits
  else if digits.length ≤ places.toNat then
    digits ++ zeros (places.toNat - digits.length) ++ layout.wholeEnd
  else digits.take places.toNat ++ '.' :: digits.drop places.toNat

/-- One digit, the others after a point, and the exponent with its sign. -/
def scientificText (digits : List Char) (places : Int) : List Char :=
  let fraction := if digits.length ≤ 1 then [] else '.' :: digits.drop 1
  let exponent := places - 1
  let sign := if exponent < 0 then '-' else '+'
  digits.take 1 ++ fraction ++ 'e' :: sign :: Nat.toDigits 10 exponent.natAbs

def magnitude (layout : Layout) (m : Magnitude) : List Char :=
  if m.significand = 0 then '0' :: layout.wholeEnd
  else
    let d := m.shortest
    let digits := Nat.toDigits 10 d.digits
    let places := digits.length + d.exponent
    if layout.positional places then layout.positionalText digits places
    else scientificText digits places

def sign (negative : Bool) : List Char := if negative then ['-'] else []

def text (layout : Layout) : Binary64 → List Char
  | .finite negative m => sign negative ++ layout.magnitude m
  | .infinite negative => sign negative ++ "inf".toList
  | .nan _ => "nan".toList

end Layout

end TraceWeave
