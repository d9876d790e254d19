import TraceWeave.Json

/-! Reading JSON texts by the grammar of RFC 8259: one value, with blanks around any token.

Numbers keep their texts. A code outside the characters, as half of a surrogate pair is, cannot
be kept in a string and is refused, as is anything after the value. -/

namespace TraceWeave.Json.Reader

def isBlank (c : Char) : Bool := c = ' ' || c = '\t' || c = '\n' || c = '\r'

def skip (text : List Char) : List Char := text.dropWhile isBlank

/-! ### Numbers -/

/-- Digits with at least one among them. -/
def isDigits (text : List Char) : Bool := !text.isEmpty && text.all Char.isDigit

def isExponent : List Char → Bool
  | '+' :: digits | '-' :: digits => isDigits digits
  | digits => isDigits digits

/-- What may follow the whole part of a number. -/
def isTail (text : List Char) : Bool :=
  let isMark (c : Char) : Bool := c = 'e' || c = 'E'
  let fraction := text.takeWhile (!isMark ·)
  let rightFraction := match fraction with
    | [] => true
    | '.' :: digits => isDigits digits
    | _ => false
  let rightExponent := match text.dropWhile (!isMark ·) with
    | [] => true
    | _ :: exponent => isExponent exponent
  rightFraction && rightExponent

/-- A whole part does not begin with a zero unless it is one. -/
def isUnsigned (text : List Char) : Bool :=
  let digits := text.takeWhile Char.isDigit
  !digits.isEmpty && (digits.head? ≠ some '0' || digits.length = 1)
    && isTail (text.dropWhile Char.isDigit)

def isNumber : List Char → Bool
  | '-' :: text => isUnsigned text
  | text => isUnsigned text

/-- The characters of numbers. None of them can follow a number. -/
def isNumberChar (c : Char) : Bool := c.isDigit || "+-.eE".toList.contains c

def number (text : List Char) : Option (Json × List Char) :=
  let digits := text.takeWhile isNumberChar
  if isNumber digits then some (.number digits, text.dropWhile isNumberChar) else none

/-! ### Strings -/

def hexValue? (c : Char) : Option Nat :=
  if c.isDigit then some (c.toNat - '0'.toNat)
  else if 'a' ≤ c ∧ c ≤ 'f' then some (c.toNat - 'a'.toNat + 10)
  else if 'A' ≤ c ∧ c ≤ 'F' then some (c.toNat - 'A'.toNat + 10)
  else none

def code? (a b c d : Char) : Option Nat := do
  some (((16 * (← hexValue? a) + (← hexValue? b)) * 16 + (← hexValue? c)) * 16 + (← hexValue? d))

def short? (c : Char) : Option Char :=
  match c with
  | '"' | '\\' | '/' => some c
  | 'b' => some '\x08'
  | 'f' => some '\x0c'
  | 'n' => some '\n'
  | 'r' => some '\r'
  | 't' => some '\t'
  | _ => none

def char? (code : Nat) : Option Char :=
  if code.isValidChar then some (Char.ofNat code) else none

/-- The code of a pair of surrogates. -/
def paired? (high low : Nat) : Option Nat :=
  if 0xD800 ≤ high ∧ high < 0xDC00 ∧ 0xDC00 ≤ low ∧ low < 0xE000 then
    some (0x10000 + (high - 0xD800) * 0x400 + (low - 0xDC00))
  else none

/-- The characters up to the closing quote and what follows it. -/
def stringBody : List Char → Option (List Char × List Char)
  | [] => none
  | '"' :: rest => some ([], rest)
  | '\\' :: 'u' :: a :: b :: c :: d :: rest => do
    let code ← code? a b c d
    match char? code with
    | some found => do
      let (more, rest) ← stringBody rest
      some (found :: more, rest)
    | none =>
      match rest with
      | '\\' :: 'u' :: a :: b :: c :: d :: rest => do
        let found ← char? (← paired? code (← code? a b c d))
        let (more, rest) ← stringBody rest
        some (found :: more, rest)
      | _ => none
  | '\\' :: c :: rest => do
    let found ← short? c
    let (more, rest) ← stringBody rest
    some (found :: more, rest)
  | c :: rest =>
    if c.toNat < 0x20 then none
    else do
      let (more, rest) ← stringBody rest
      some (c :: more, rest)

/-! ### Values -/

def literals : List (List Char × Json) :=
  [("null".toList, .null), ("true".toList, .bool true), ("false".toList, .bool false)]

/-- A value without parts: a literal or a number. -/
def scalar (text : List Char) : Option (Json × List Char) :=
  match literals.find? fun (name, _) => name.isPrefixOf text with
  | some (name, value) => some (value, text.drop name.length)
  | none => number text

mutual

def value : Nat → List Char → Option (Json × List Char)
  | 0, _ => none
  | fuel + 1, text =>
    match skip text with
    | '"' :: rest => do
      let (chars, rest) ← stringBody rest
      some (.string (String.ofList chars), rest)
    | '[' :: rest =>
      match skip rest with
      | ']' :: rest => some (.array [], rest)
      | rest => do
        let (found, rest) ← items fuel rest
        some (.array found, rest)
    | '\x7b' :: rest =>
      match skip rest with
      | '\x7d' :: rest => some (.object [], rest)
      | rest => do
        let (found, rest) ← members fuel rest
        some (.object found, rest)
    | rest => scalar rest

/-- One or more items and the bracket behind them. -/
def items : Nat → List Char → Option (List Json × List Char)
  | 0, _ => none
  | fuel + 1, text => do
    let (item, rest) ← value fuel text
    match skip rest with
    | ']' :: rest => some ([item], rest)
    | ',' :: rest =>
      let (more, rest) ← items fuel rest
      some (item :: more, rest)
    | _ => none

/-- One or more members and the brace behind them. -/
def members : Nat → List Char → Option (List (String × Json) × List Char)
  | 0, _ => none
  | fuel + 1, text => do
    match skip text with
    | '"' :: rest =>
      let (key, rest) ← stringBody rest
      match skip rest with
      | ':' :: rest =>
        let (value, rest) ← value fuel rest
        let member := (String.ofList key, value)
        match skip rest with
        | '\x7d' :: rest => some ([member], rest)
        | ',' :: rest =>
          let (more, rest) ← members fuel rest
          some (member :: more, rest)
        | _ => none
      | _ => none
    | _ => none

end

end Reader

/-- The value that a text stands for. -/
def read? (text : String) : Option Json := do
  let chars := text.toList
  let (value, rest) ← Reader.value (chars.length + 1) chars
  if (Reader.skip rest).isEmpty then some value else none

end TraceWeave.Json
