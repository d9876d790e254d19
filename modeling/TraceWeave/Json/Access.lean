import TraceWeave.Json
import TraceWeave.Clamped
import TraceWeave.Decimal.Nearest

/-! Taking JSON values apart. Each function gives nothing where the value is of another kind. -/

namespace TraceWeave.Json

/-- The values of an object whose members are just these, in this order. -/
def fields? (names : List String) : Json → Option (List Json)
  | .object members => if members.map Prod.fst = names then some (members.map Prod.snd) else none
  | _ => none

def bool? : Json → Option Bool
  | .bool value => some value
  | _ => none

def string? : Json → Option String
  | .string text => some text
  | _ => none

def items? : Json → Option (List Json)
  | .array items => some items
  | _ => none

def int? : Json → Option Int
  | .number text => Numeral.readInteger? text
  | _ => none

def nat? (value : Json) : Option Nat := do
  match ← value.int? with
  | .ofNat n => some n
  | .negSucc _ => none

def int64? (value : Json) : Option Int64 := value.int?.bind Clamped.ofInt?

def real? : Json → Option Binary64
  | .number text => Binary64.readFinite? text
  | _ => none

end TraceWeave.Json
