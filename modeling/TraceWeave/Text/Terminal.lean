/-! Taking the control sequences of a terminal out of a text.

A sequence begins with ESC. What follows decides how long it goes on: a command of one character,
a command with parameters behind `[`, or a string behind one of `]PX^_`, which goes on to BEL, to
the next ESC or to a closing byte. Blanks of ASCII are kept inside a command too, and what stands
behind such a blank is text again. -/

namespace TraceWeave.Text.Terminal

inductive State where
  | text
  | escape
  | escapeRest
  /-- A command with parameters: at its start, in its parameters, behind them, or spoilt. -/
  | command
  | parameters
  | commandRest
  | spoilt
  /-- A string that is read to its end, the one behind `]` and the others. -/
  | title
  | string
  deriving DecidableEq

/-- The state after an ASCII character that is no control. -/
def State.after (state : State) (c : Char) : State :=
  let n := c.toNat
  match state with
  | .text => .text
  | .escape =>
    if n < 0x30 then .escapeRest
    else if c = '[' then .command
    else if c = ']' then .title
    else if c = 'P' ∨ c = 'X' ∨ c = '^' ∨ c = '_' then .string
    else .text
  | .escapeRest => if n < 0x30 then .escapeRest else .text
  | .command | .parameters =>
    if n < 0x30 then .commandRest
    else if n < 0x3C then .parameters
    else if n < 0x40 then if state = .command then .parameters else .spoilt
    else .text
  | .commandRest => if n < 0x30 then .commandRest else if n < 0x40 then .spoilt else .text
  | .spoilt => if n < 0x40 then .spoilt else .text
  | .title => .title
  | .string => .string

def isKeptBlank (c : Char) : Bool :=
  c = ' ' || c = '\t' || c = '\n' || c = '\r' || c.toNat = 0x0C

/-- Whether a character above ASCII has the byte that closes a string among its later ones. -/
def closesString (c : Char) : Bool := ((String.singleton c).toUTF8.toList.drop 1).contains 0x9C

/-- A state, and whether text is being kept whatever the state says. -/
structure Reader where
  state : State
  keeping : Bool
  kept : List Char

namespace Reader

def keep (r : Reader) (state : State) (c : Char) : Reader := ⟨state, true, c :: r.kept⟩

def skip (r : Reader) (state : State) : Reader := { r with state, keeping := false }

def isString (state : State) : Bool := state = .title || state = .string

def read (r : Reader) (c : Char) : Reader :=
  let n := c.toNat
  if 0x80 ≤ n then
    if r.keeping ∨ r.state = .text then r.keep .text c
    else if r.state = .string ∧ closesString c then r.skip .text
    else r
  else if n = 0x1B then r.skip .escape
  else if n = 0x18 ∨ n = 0x1A then r.skip .text
  else if r.keeping then
    if isKeptBlank c ∨ (0x20 ≤ n ∧ n < 0x7F) then r.keep r.state c else r.skip r.state
  else if n < 0x20 then
    if isString r.state then r.skip (if n = 0x07 ∧ r.state = .title then .text else r.state)
    else if isKeptBlank c then r.keep r.state c
    else r
  else if n = 0x7F then r
  else if r.state = .text then r.keep .text c
  else r.skip (r.state.after c)

end Reader

/-- The text without its control sequences and without other controls than blanks. -/
def strip (text : String) : String :=
  String.ofList (text.toList.foldl Reader.read ⟨.text, false, []⟩).kept.reverse

end TraceWeave.Text.Terminal
