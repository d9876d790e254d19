import TraceWeave.Text.Regex

/-! Reading regular expressions. In the basic form parentheses, braces and the signs for one or
more, for none or one and for alternatives have a backslash in front of them; in the extended form
a backslash makes them ordinary characters. -/

namespace TraceWeave.Text.Regex

structure ReadState where
  rest : List Char
  /-- How many groups have begun. -/
  groups : Nat
  /-- The groups that have ended. -/
  closed : List Nat

abbrev RegexReader := EStateM String ReadState

inductive Sign where
  | ordinary (c : Char)
  | special (c : Char)
  /-- A backslash with a character that has a meaning of its own in both forms. -/
  | escape (c : Char)
  | ending

def signAt (extended : Bool) (text : List Char) : Except String (Sign × List Char) :=
  match text with
  | [] => .ok (.ending, [])
  | ['\\'] => .error "Trailing backslash"
  | '\\' :: c :: rest =>
    if "(){}+?|".toList.contains c then
      .ok (if extended then .ordinary c else .special c, rest)
    else if c.isDigit ∨ "wWsSbB<>'\x60".toList.contains c then .ok (.escape c, rest)
    else if c = 'n' then .ok (.ordinary '\n', rest)
    else if c = 't' then .ok (.ordinary '\t', rest)
    else .ok (.ordinary c, rest)
  | c :: rest =>
    if "(){}+?|".toList.contains c then
      .ok (if extended then .special c else .ordinary c, rest)
    else if ".[*^$".toList.contains c then .ok (.special c, rest)
    else .ok (.ordinary c, rest)

section
variable (extended : Bool)

def peek : RegexReader Sign := fun state =>
  match signAt extended state.rest with
  | .ok (sign, _) => .ok sign state
  | .error why => .error why state

def skip : RegexReader Unit := modify fun state =>
  match signAt extended state.rest with
  | .ok (_, rest) => { state with rest }
  | .error _ => state

def isSpecial (sign : Sign) (c : Char) : Bool :=
  match sign with
  | .special d => c = d
  | _ => false

def escaped (c : Char) : RegexReader Regex := do
  let word : List Shell.Pattern.Range := [.class "alnum", .between '_' '_']
  match c with
  | 'w' => pure (.oneOf false word)
  | 'W' => pure (.oneOf true word)
  | 's' => pure (.oneOf false [.class "space"])
  | 'S' => pure (.oneOf true [.class "space"])
  | 'b' => pure (.wordEdge true true)
  | 'B' => pure .insideWord
  | '<' => pure (.wordEdge true false)
  | '>' => pure (.wordEdge false true)
  | '\x60' => pure .lineStart
  | '\'' => pure .lineEnd
  | _ =>
    let number := c.toNat - '0'.toNat
    if (← get).closed.contains number then pure (.again number)
    else throw "Invalid back reference"

def bracket : RegexReader Regex := do
  let state ← get
  let negated := state.rest.head? = some '^'
  let text := if negated then state.rest.drop 1 else state.rest
  match Shell.Pattern.ranges (text.length + 1) true (text.map fun c => (c, false)) with
  | some (ranges, rest) =>
    set { state with rest := rest.map Prod.fst }
    pure (.oneOf negated ranges)
  | none => throw "Unmatched [, [^, [:, [., or [="

/-- Whether what stands behind an opening brace can be bounds. -/
def isBounded (text : List Char) : Bool :=
  (text.dropWhile fun c => c.isDigit || c = ',').head? == some '\x7d'
    && (text.head?.any Char.isDigit || text.head? == some ',')

/-- The bounds of a repetition in braces, behind the opening one. -/
def bounds : RegexReader (Nat × Option Nat) := do
  let number : RegexReader (Option Nat) := do
    let state ← get
    let digits := state.rest.takeWhile Char.isDigit
    set { state with rest := state.rest.drop digits.length }
    pure (String.ofList digits).toNat?
  let least? ← number
  let bounds ← do
    match (← get).rest with
    | ',' :: rest =>
      modify fun state => { state with rest }
      pure (least?.getD 0, ← number)
    | _ =>
      match least? with
      | some n => pure (n, some n)
      | none => throw "Invalid content of \\\x7b\\\x7d"
  if isSpecial (← peek extended) '\x7d' then
    skip extended
    if bounds.2.any fun most => most < bounds.1 then throw "Invalid content of \\\x7b\\\x7d"
    pure bounds
  else throw "Unmatched \x7b or \\\x7b"

def repetitions : Nat → Regex → RegexReader Regex
  | 0, regex => pure regex
  | fuel + 1, regex => do
    let onward (regex : Regex) : RegexReader Regex := do
      skip extended
      repetitions fuel regex
    match ← peek extended with
    | .special '*' => onward (.repeated regex 0 none)
    | .special '+' => onward (.repeated regex 1 none)
    | .special '?' => onward (.repeated regex 0 (some 1))
    | .special '\x7b' =>
      if extended && !isBounded ((← get).rest.drop 1) then pure regex
      else
        skip extended
        let (least, most?) ← bounds extended
        repetitions fuel (.repeated regex least most?)
    | _ => pure regex

/-- Whether a dollar sign that comes next ends what is to be matched. -/
def endsHere : RegexReader Bool := do
  if extended then pure true
  else
    let state ← get
    match signAt extended (state.rest.drop 1) with
    | .ok (.ending, _) | .ok (.special ')', _) | .ok (.special '|', _) => pure true
    | _ => pure false

/-- One part that may be repeated. `first` says whether nothing stands before it. -/
def part (inner : RegexReader Regex) (first : Bool) : RegexReader Regex := do
  match ← peek extended with
  | .ending => pure .empty
  | .ordinary c =>
    skip extended
    pure (.char c)
  | .escape c =>
    skip extended
    escaped c
  | .special c =>
    match c with
    | '.' =>
      skip extended
      pure .anyChar
    | '[' =>
      skip extended
      bracket
    | '^' =>
      skip extended
      pure (if extended || first then .lineStart else .char '^')
    | '$' =>
      let ends ← endsHere extended
      skip extended
      pure (if ends then .lineEnd else .char '$')
    | '(' =>
      skip extended
      let number := (← get).groups + 1
      modify fun state => { state with groups := number }
      let regex ← inner
      if isSpecial (← peek extended) ')' then
        skip extended
        modify fun state => { state with closed := number :: state.closed }
        pure (.group number regex)
      else throw "Unmatched ( or \\("
    | _ =>
      skip extended
      pure (.char c)

/-- Parts up to the end, an alternative or the end of a group. -/
def parts (inner : RegexReader Regex) : Nat → Bool → RegexReader Regex
  | 0, _ => pure .empty
  | fuel + 1, first => do
    let sign ← peek extended
    let ends : Bool := match sign with
      | .ending | .special ')' | .special '|' => true
      | _ => false
    if ends then pure .empty
    else
      let regex ← part extended inner first
      let anchors : Bool := match regex with
        | .lineStart => true
        | _ => false
      let repeated ←
        if anchors && !extended then pure regex
        else repetitions extended ((← get).rest.length + 1) regex
      let rest ← parts inner fuel (anchors && first && !extended)
      pure (match rest with
        | .empty => repeated
        | _ => .sequence repeated rest)

def alternatives (inner : RegexReader Regex) : Nat → RegexReader Regex
  | 0 => pure .empty
  | fuel + 1 => do
    let first ← parts extended inner ((← get).rest.length + 1) true
    if isSpecial (← peek extended) '|' then
      skip extended
      return .either first (← alternatives inner fuel)
    else pure first

def nested : Nat → RegexReader Regex
  | 0 => pure .empty
  | depth + 1 => do alternatives extended (nested depth) ((← get).rest.length + 1)

def read (text : List Char) : Except String Regex :=
  match nested extended (text.length + 1) ⟨text, 0, []⟩ with
  | .ok regex state => if state.rest.isEmpty then .ok regex else .error "Unmatched ) or \\)"
  | .error why _ => .error why

end

/-- An expression that matches a text and nothing else. -/
def ofText (text : List Char) : Regex :=
  text.foldr (fun c rest => .sequence (.char c) rest) .empty

end TraceWeave.Text.Regex
