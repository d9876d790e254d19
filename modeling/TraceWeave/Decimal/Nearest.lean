import TraceWeave.Binary64.Basic
import TraceWeave.Decimal.Numeral

/-! The binary64 number nearest to a decimal numeral. -/

namespace TraceWeave

namespace Numeral

/-- The numeral rounded once. The first two cases need no arithmetic: with more than 400 places
before the point a coefficient other than zero is beyond the format, and a value below
`2 ^ -1075` is nearer to zero than to the smallest positive number. -/
def nearest (n : Numeral) : Binary64 :=
  if n.coefficient = 0 then .finite n.negative .zero
  else if 400 < n.exponent then .infinite n.negative
  else if (n.coefficient.log2 + 1076 : Int) < 3 * -n.exponent then .finite n.negative .zero
  else .ofUnits n.negative
    (n.coefficient * Nat.pow 10 n.exponent.toNat * Binary64.unitsPerOne)
    (Nat.pow 10 (-n.exponent).toNat)

end Numeral

namespace Binary64

/-- The finite number that a numeral denotes. -/
def readFinite? (text : List Char) : Option Binary64 := do
  let n ← Numeral.read? text
  if n.nearest.isFinite then some n.nearest else none

/-- Any number: a numeral, or in any case of letters `inf`, `infinity` or `nan` with an
optional sign. -/
def read? (text : List Char) : Option Binary64 :=
  match Numeral.read? text with
  | some n => some n.nearest
  | none =>
    let (negative, rest) := Numeral.splitSign text
    let name := rest.map Char.toLower
    if name = "inf".toList ∨ name = "infinity".toList then some (.infinite negative)
    else if name = "nan".toList then some (.nan negative)
    else none

end Binary64

end TraceWeave
