import TraceWeave.Text.Hidden

/-! A command as it is shown in a log: its words between double quotes, with escapes for quotes,
backslashes and all that a reader would not see.

The name of the command and its arguments differ in two points: the name has its single quotes
escaped, and its ASCII controls are shown by two digits. A word with a NUL character is never
handed over and is shown as a placeholder. -/

namespace TraceWeave.Text

inductive QuoteStyle where
  | command
  | argument
  deriving DecidableEq

def code (c : Char) : List Char := Nat.toDigits 16 c.toNat

def twoDigitCode (c : Char) : List Char :=
  '\\' :: 'x' :: (if c.toNat < 16 then '0' :: code c else code c)

def bracedCode (c : Char) : List Char := '\\' :: 'u' :: '\x7b' :: code c ++ ['\x7d']

def quotedChar (style : QuoteStyle) (c : Char) : List Char :=
  if c = '\t' then ['\\', 't']
  else if c = '\n' then ['\\', 'n']
  else if c = '\r' then ['\\', 'r']
  else if c = '"' ∨ c = '\\' ∨ (c = '\'' ∧ style = .command) then ['\\', c]
  else if (c.toNat < 0x20 ∨ c.toNat = 0x7F) ∧ style = .command then twoDigitCode c
  else if c.toNat < 0x20 ∨ isHidden c then bracedCode c
  else [c]

def quotedWord (style : QuoteStyle) (word : String) : String :=
  if word.contains '\x00' then "\"<string-with-nul>\""
  else String.ofList ('"' :: (word.toList.flatMap (quotedChar style) ++ ['"']))

def quotedCommand (command : String) (arguments : List String) : String :=
  " ".intercalate (quotedWord .command command :: arguments.map (quotedWord .argument))

end TraceWeave.Text
