import TraceWeave.Decimal.Layout

/-! JSON values and their texts, on one line or indented.

A number is kept as its text, so a value says exactly what its document says. -/

namespace TraceWeave

inductive Json where
  | null
  | bool (value : Bool)
  | number (text : List Char)
  | string (text : String)
  | array (items : List Json)
  | object (members : List (String × Json))

namespace Json

def int (n : Int) : Json := .number (toString n).toList

/-- A finite number by its shortest digits; any other has no text and is null. -/
def real (x : Binary64) : Json :=
  if x.isFinite then .number (Layout.document.text x) else .null

inductive Style where
  /-- Everything on one line, without blanks. -/
  | compact
  /-- One member or item a line, two blanks deeper than what holds it. -/
  | indented
  deriving DecidableEq

namespace Style

def lineBreak : Style → Nat → List Char
  | .compact, _ => []
  | .indented, depth => '\n' :: List.replicate (2 * depth) ' '

def colon : Style → List Char
  | .compact => [':']
  | .indented => [':', ' ']

end Style

def hexDigit (n : Nat) : Char := (Nat.digitChar n)

/-- A character inside quotes: the quote and the backslash behind a backslash, the controls below
a blank by their short names or their code, all others as they are. -/
def escape (c : Char) : List Char :=
  if c = '"' then ['\\', '"']
  else if c = '\\' then ['\\', '\\']
  else if 0x20 ≤ c.toNat then [c]
  else if c = '\n' then ['\\', 'n']
  else if c = '\r' then ['\\', 'r']
  else if c = '\t' then ['\\', 't']
  else if c.toNat = 0x08 then ['\\', 'b']
  else if c.toNat = 0x0C then ['\\', 'f']
  else ['\\', 'u', '0', '0', hexDigit (c.toNat / 16), hexDigit (c.toNat % 16)]

def quote (text : String) : List Char := '"' :: (text.toList.flatMap escape ++ ['"'])

mutual

/-- The text of a value that stands `depth` levels deep. -/
def text (style : Style) (depth : Nat) : Json → List Char
  | .null => "null".toList
  | .bool true => "true".toList
  | .bool false => "false".toList
  | .number digits => digits
  | .string s => quote s
  | .array [] => ['[', ']']
  | .array (item :: items) =>
    '[' :: (style.lineBreak (depth + 1) ++ (text style (depth + 1) item
      ++ (moreItems style (depth + 1) items ++ (style.lineBreak depth ++ [']']))))
  | .object [] => ['\x7b', '\x7d']
  | .object (member :: members) =>
    '\x7b' :: (style.lineBreak (depth + 1) ++ (memberText style (depth + 1) member
      ++ (moreMembers style (depth + 1) members ++ (style.lineBreak depth ++ ['\x7d']))))

def moreItems (style : Style) (depth : Nat) : List Json → List Char
  | [] => []
  | item :: items =>
    ',' :: (style.lineBreak depth ++ (text style depth item ++ moreItems style depth items))

def memberText (style : Style) (depth : Nat) : String × Json → List Char
  | (key, value) => quote key ++ (style.colon ++ text style depth value)

def moreMembers (style : Style) (depth : Nat) : List (String × Json) → List Char
  | [] => []
  | member :: members =>
    ',' :: (style.lineBreak depth ++ (memberText style depth member
      ++ moreMembers style depth members))

end

def document (style : Style) (value : Json) : String := String.ofList (text style 0 value)

end Json

end TraceWeave
