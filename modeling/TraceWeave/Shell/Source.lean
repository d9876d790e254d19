import TraceWeave.Shell.Command

/-! The source of a script: its characters, read one by one, and the line that is being read.

A text below a command is taken out of the source when the command asks for it. Its lines count
when the line of the command ends. -/

namespace TraceWeave.Shell

inductive Operator where
  | newline
  | semicolon
  | doubleSemicolon
  | ampersand
  | bothSign
  | eitherSign
  | bar
  | openParen
  | closeParen
  deriving DecidableEq

def Operator.name : Operator → String
  | .newline => "newline"
  | .semicolon => "\";\""
  | .doubleSemicolon => "\";;\""
  | .ampersand => "\"&\""
  | .bothSign => "\"&&\""
  | .eitherSign => "\"||\""
  | .bar => "\"|\""
  | .openParen => "\"(\""
  | .closeParen => "\")\""

inductive Token where
  | word (word : Word)
  | keyword (text : String)
  | operator (operator : Operator)
  /-- A redirection without its target. -/
  | redirection (descriptor : Nat) (action : Redirection.Action)
  | ending

namespace Token

def isOperator (token : Token) (wanted : Operator) : Bool :=
  match token with
  | .operator found => found = wanted
  | _ => false

def isKeyword (token : Token) (text : String) : Bool :=
  match token with
  | .keyword found => found = text
  | _ => false

def name : Token → String
  | .word _ => "word"
  | .keyword text => "\"" ++ text ++ "\""
  | .operator found => found.name
  | .redirection .. => "redirection"
  | .ending => "end of file"

end Token

structure Source where
  rest : List Char
  line : Nat
  /-- How many lines were taken out from below the current one. -/
  below : Nat
  /-- A token that was read and put back. -/
  ahead? : Option Token

abbrev Reader := EStateM Fault Source

namespace Source

def ofText (text : String) (line : Nat) : Source := ⟨text.toList, line, 0, none⟩

def skip (source : Source) : Source :=
  match source.rest with
  | [] => source
  | c :: rest =>
    if c = '\n' then { source with rest, line := source.line + 1 + source.below, below := 0 }
    else { source with rest }

/-- Passes over ends of lines that a backslash takes away. -/
def joined (source : Source) : Source :=
  match source with
  | ⟨'\\' :: '\n' :: rest, line, below, ahead?⟩ => joined ⟨rest, line + 1 + below, 0, ahead?⟩
  | source => source
termination_by source.rest.length

end Source

namespace Reader

def peekRaw? : Reader (Option Char) := do return (← get).rest.head?

/-- The next character, where a backslash joins lines. -/
def peek? : Reader (Option Char) := do
  modify Source.joined
  peekRaw?

def skip : Reader Unit := modify Source.skip

/-- More than the steps that reading the rest can take, one for each character. -/
def bound : Reader Nat := do return (← get).rest.length + 2

def take (c : Char) : Reader Bool := do
  if (← peek?) = some c then
    skip
    pure true
  else pure false

/-- The characters that satisfy a test, from the next one on. Line ends are none of them. -/
def takeWhile (test : Char → Bool) : Reader (List Char) := fun source =>
  let taken := source.rest.takeWhile test
  .ok taken { source with rest := source.rest.drop taken.length }

/-- Reads another text in the place of this source. A fault is one of the other text. -/
def within {α : Type} (inner : Source) (reader : Reader α) : Reader α := do
  let outer ← get
  set inner
  let found ← reader
  set outer
  pure found

end Reader

end TraceWeave.Shell
