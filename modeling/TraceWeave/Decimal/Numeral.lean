import TraceWeave.Clamped

/-! Decimal numerals as they stand in text.

A numeral is an optional sign, digits with an optional point (at least one digit in all) and an
optional exponent: `e` or `E`, an optional sign, at least one digit. Only ASCII digits count. -/

namespace TraceWeave

/-- `coefficient * 10 ^ exponent` with a sign. -/
structure Numeral where
  negative : Bool
  coefficient : Nat
  exponent : Int
  deriving DecidableEq, Repr

namespace Numeral

def ofDigits (digits : List Char) : Nat :=
  digits.foldl (fun n c => 10 * n + (c.toNat - '0'.toNat)) 0

def splitSign : List Char → Bool × List Char
  | '-' :: rest => (true, rest)
  | '+' :: rest => (false, rest)
  | text => (false, text)

/-- A sign and digits, nothing else. -/
def readInteger? (text : List Char) : Option Int :=
  let (negative, digits) := splitSign text
  if digits.isEmpty || !digits.all Char.isDigit then none
  else some (if negative then -(ofDigits digits : Int) else ofDigits digits)

/-- The digits after the point, if there is a point, and the rest. -/
def splitFraction : List Char → List Char × List Char
  | '.' :: rest => (rest.takeWhile Char.isDigit, rest.dropWhile Char.isDigit)
  | rest => ([], rest)

/-- An exponent that ends the text; an empty rest is the exponent zero. -/
def readExponent? : List Char → Option Int
  | [] => some 0
  | c :: rest => if c = 'e' ∨ c = 'E' then readInteger? rest else none

def read? (text : List Char) : Option Numeral := do
  let (negative, rest) := splitSign text
  let whole := rest.takeWhile Char.isDigit
  let (fraction, rest) := splitFraction (rest.dropWhile Char.isDigit)
  if whole.isEmpty && fraction.isEmpty then none
  else
    let exponent ← readExponent? rest
    some ⟨negative, ofDigits (whole ++ fraction), exponent - fraction.length⟩

/-- A 64-bit integer with an optional sign; one beyond the range is refused. -/
def readInt64? (text : List Char) : Option Int64 := (readInteger? text).bind Clamped.ofInt?

end Numeral

end TraceWeave
