import TraceWeave.Shell.Program.Reading
import TraceWeave.Text.Regex.Reader

/-! Scripts that edit lines: commands with addresses that say which lines they are for. -/

namespace TraceWeave.Shell.Program.Sed

open TraceWeave.Text (Regex)

/-- A pattern; the empty one stands for the one that was used last. -/
structure LinePattern where
  regex? : Option Regex
  folded : Bool

inductive Address where
  | line (number : Nat)
  | last
  | pattern (pattern : LinePattern)
  /-- Every so many lines from one on. -/
  | every (first step : Nat)
  /-- So many lines behind the one where a range begins. -/
  | behind (count : Nat)
  /-- The next line whose number is a multiple. -/
  | multiple (count : Nat)

inductive Part where
  | text (text : List Char)
  | group (number : Nat)
  /-- Changes the case of what follows: of one letter or, until told otherwise, of all. -/
  | upper (one : Bool)
  | lower (one : Bool)
  | asIs

structure Replacement where
  pattern : LinePattern
  parts : List Part
  /-- The match that is replaced first. -/
  nth : Nat
  everywhere : Bool
  prints : Bool
  file? : Option String

inductive Jump where
  | always
  | ifReplaced
  | unlessReplaced
  deriving DecidableEq

inductive Edit where
  | openGroup
  | closeGroup
  | label (name : String)
  | jump (kind : Jump) (label : String)
  | number
  | append (text : List Char)
  | insert (text : List Char)
  | change (text : List Char)
  | delete
  | deleteFirst
  | print
  | printFirst
  | next
  | nextAppended
  | quit (status : Nat) (silent : Bool)
  | hold (appends : Bool)
  | recall (appends : Bool)
  | exchange
  | list
  | readFile (path : String)
  | writeFile (path : String)
  | replace (replacement : Replacement)
  | convert (table : List (Char × Char))

structure Step where
  first? : Option Address
  second? : Option Address
  negated : Bool
  edit : Edit

structure State where
  rest : List Char
  /-- How many characters were read. -/
  place : Nat
  extended : Bool

abbrev Reader := EStateM String State

def fail {α : Type} (text : String) : Reader α := do
  throw ("char " ++ toString (← get).place ++ ": " ++ text)

def peek? : Reader (Option Char) := do return (← get).rest.head?

def next? : Reader (Option Char) := fun state =>
  match state.rest with
  | [] => .ok none { state with place := state.place + 1 }
  | c :: rest => .ok (some c) { state with rest, place := state.place + 1 }

def takeWhile (test : Char → Bool) : Reader (List Char) := fun state =>
  let taken := state.rest.takeWhile test
  .ok taken { state with
    rest := state.rest.drop taken.length, place := state.place + taken.length }

def isBlank (c : Char) : Bool := c = ' ' || c = '\t'

def blanks : Reader Unit := do
  let _ ← takeWhile isBlank

/-- The set of characters whose opening bracket was read, up to its closing one. -/
def restOfSet : Reader (List Char) := do
  let negation ← takeWhile (· = '^')
  let first ← if (← peek?) = some ']' then takeOne else pure []
  let rest ← takeWhile (· ≠ ']')
  return negation ++ first ++ rest
where
  takeOne : Reader (List Char) := do return (← next?).toList

/-- The text up to a sign without a backslash, if the sign is there. Where the text is a pattern a
sign in a set of characters is an ordinary one. -/
def untilSign (sign : Char) (isPattern : Bool) : Nat → Reader (Option (List Char))
  | 0 => pure none
  | fuel + 1 => do
    match ← next? with
    | none => pure none
    | some '\\' =>
      match ← next? with
      | none => pure none
      | some c =>
        let rest? ← untilSign sign isPattern fuel
        let text := if c = sign ∧ c ≠ '&' then [c] else ['\\', c]
        return rest?.map (text ++ ·)
    | some c =>
      if c = sign then pure (some [])
      else
        let set ← if isPattern && c = '[' then restOfSet else pure []
        let rest? ← untilSign sign isPattern fuel
        return rest?.map (c :: set ++ ·)

def number : Reader Nat := do
  return ((String.ofList (← takeWhile Char.isDigit)).toNat?).getD 0

def compile (text : List Char) (folded : Bool) : Reader LinePattern := do
  if text.isEmpty then pure ⟨none, folded⟩
  else
    match Regex.read (← get).extended text with
    | .ok regex => pure ⟨some regex, folded⟩
    | .error why => fail why

def patternAddress (sign : Char) : Reader Address := do
  match ← untilSign sign true ((← get).rest.length + 1) with
  | none => fail "unterminated address regex"
  | some text =>
    let letters ← takeWhile fun c => c = 'I' || c = 'M'
    return .pattern (← compile text (letters.contains 'I'))

def address? : Reader (Option Address) := do
  match ← peek? with
  | some '$' =>
    let _ ← next?
    pure (some .last)
  | some '/' =>
    let _ ← next?
    return some (← patternAddress '/')
  | some '\\' =>
    let _ ← next?
    match ← next? with
    | some sign => return some (← patternAddress sign)
    | none => fail "unexpected end"
  | some c =>
    if c.isDigit then
      let first ← number
      if (← peek?) = some '~' then
        let _ ← next?
        return some (.every first (← number))
      else pure (some (.line first))
    else pure none
  | none => pure none

/-- The text behind a command that puts one in. It may begin on the next line; a backslash at its
end joins the next one. -/
def textFrom : Nat → Reader (List Char)
  | 0 => pure []
  | fuel + 1 => do
    match ← next? with
    | none | some '\n' => pure []
    | some '\\' =>
      match ← next? with
      | some c => return c :: (← textFrom fuel)
      | none => pure []
    | some c => return c :: (← textFrom fuel)

def insertedText : Reader (List Char) := do
  blanks
  match (← get).rest with
  | '\\' :: rest =>
    let gap := rest.takeWhile isBlank
    match rest.drop gap.length with
    | '\n' :: rest => modify fun state => { state with rest }
    | _ => modify fun state => { state with rest }
  | _ => pure ()
  let text ← textFrom ((← get).rest.length + 1)
  pure (text ++ ['\n'])

def parts : Nat → List Char → List Part
  | 0, _ | _, [] => []
  | fuel + 1, '&' :: rest => .group 0 :: parts fuel rest
  | fuel + 1, '\\' :: c :: rest =>
    let part : Part :=
      if c.isDigit then .group (c.toNat - '0'.toNat)
      else match c with
        | 'n' => .text ['\n']
        | 't' => .text ['\t']
        | 'r' => .text ['\x0d']
        | 'U' => .upper false
        | 'u' => .upper true
        | 'L' => .lower false
        | 'l' => .lower true
        | 'E' => .asIs
        | c => .text [c]
    part :: parts fuel rest
  | fuel + 1, c :: rest => .text [c] :: parts fuel rest

def highestGroup : List Part → Nat
  | [] => 0
  | .group number :: parts => max number (highestGroup parts)
  | _ :: parts => highestGroup parts

def fileName : Reader String := do
  blanks
  return String.ofList (← takeWhile (· ≠ '\n'))

def replaceOptions : Nat → Replacement → Reader Replacement
  | 0, found => pure found
  | fuel + 1, found => do
    match ← peek? with
    | some 'g' =>
      let _ ← next?
      replaceOptions fuel { found with everywhere := true }
    | some 'p' =>
      let _ ← next?
      replaceOptions fuel { found with prints := true }
    | some 'w' =>
      let _ ← next?
      return { found with file? := some (← fileName) }
    | some c =>
      if c = 'i' ∨ c = 'I' ∨ c = 'm' ∨ c = 'M' then
        let _ ← next?
        let folded := found.pattern.folded || c.toUpper = 'I'
        replaceOptions fuel { found with pattern := { found.pattern with folded } }
      else if c.isDigit then
        let n ← number
        if n = 0 then fail "number option to \x60s' command may not be zero"
        else replaceOptions fuel { found with nth := n }
      else if c = '\n' ∨ c = ';' ∨ c = '\x7d' ∨ c = '#' ∨ isBlank c then pure found
      else
        let _ ← next?
        fail "unknown option to \x60s'"
    | none => pure found

def replacement : Reader Edit := do
  match ← next? with
  | none => fail "unterminated \x60s' command"
  | some sign =>
    let bound := (← get).rest.length + 1
    match ← untilSign sign true bound with
    | none => fail "unterminated \x60s' command"
    | some pattern =>
      match ← untilSign sign false bound with
      | none => fail "unterminated \x60s' command"
      | some text =>
        let draft : Replacement := ⟨⟨none, false⟩, parts (text.length + 1) text, 1, false, false,
          none⟩
        let found ← replaceOptions bound draft
        let compiled ← compile pattern found.pattern.folded
        match highestGroup draft.parts, compiled.regex? with
        | n, some regex =>
          if regex.groups < n then
            fail ("invalid reference \\" ++ toString n ++ " on \x60s' command's RHS")
          else pure (.replace { found with pattern := compiled })
        | _, none => pure (.replace { found with pattern := compiled })

/-- Characters with what stands for them. -/
def table : Reader Edit := do
  match ← next? with
  | none => fail "unterminated \x60y' command"
  | some sign =>
    let bound := (← get).rest.length + 1
    match ← untilSign sign false bound, ← untilSign sign false bound with
    | some source, some target =>
      let rec plain : List Char → List Char
        | '\\' :: 'n' :: rest => '\n' :: plain rest
        | '\\' :: c :: rest => c :: plain rest
        | c :: rest => c :: plain rest
        | [] => []
      let source := plain source
      let target := plain target
      if source.length = target.length then pure (.convert (source.zip target))
      else fail "strings for \x60y' command are different lengths"
    | _, _ => fail "unterminated \x60y' command"

def labelName : Reader String := do
  blanks
  let name ← takeWhile fun c => c ≠ '\n' && c ≠ ';'
  return String.ofList ((name.reverse.dropWhile isBlank).reverse)

def quitting (silent : Bool) : Reader Edit := do
  blanks
  return .quit (← number) silent

def edit (letter : Char) : Reader Edit := do
  match letter with
  | '\x7b' => pure .openGroup
  | '\x7d' => pure .closeGroup
  | ':' => return .label (← labelName)
  | 'b' => return .jump .always (← labelName)
  | 't' => return .jump .ifReplaced (← labelName)
  | 'T' => return .jump .unlessReplaced (← labelName)
  | '=' => pure .number
  | 'a' => return .append (← insertedText)
  | 'i' => return .insert (← insertedText)
  | 'c' => return .change (← insertedText)
  | 'd' => pure .delete
  | 'D' => pure .deleteFirst
  | 'p' => pure .print
  | 'P' => pure .printFirst
  | 'n' => pure .next
  | 'N' => pure .nextAppended
  | 'q' => quitting false
  | 'Q' => quitting true
  | 'h' => pure (.hold false)
  | 'H' => pure (.hold true)
  | 'g' => pure (.recall false)
  | 'G' => pure (.recall true)
  | 'x' => pure .exchange
  | 'l' =>
    blanks
    let _ ← number
    pure .list
  | 'r' => return .readFile (← fileName)
  | 'w' => return .writeFile (← fileName)
  | 's' => replacement
  | 'y' => table
  | c => fail ("unknown command: \x60" ++ String.singleton c ++ "'")

def ending : Reader Unit := do
  blanks
  match ← peek? with
  | some ';' | some '\n' =>
    let _ ← next?
  | none | some '\x7d' | some '#' => pure ()
  | some _ =>
    let _ ← next?
    fail "extra characters after command"

/-- Whether the end of a command is its own. -/
def endsItself : Edit → Bool
  | .openGroup | .label _ | .jump .. | .append _ | .insert _ | .change _ | .readFile _
  | .writeFile _ => true
  | .replace found => found.file?.isSome
  | _ => false

def steps : Nat → Nat → Reader (List Step)
  | 0, _ => pure []
  | fuel + 1, depth => do
    let _ ← takeWhile fun c => isBlank c || c = '\n' || c = ';'
    match ← peek? with
    | none => if 0 < depth then throw "char 0: unmatched \x60\x7b'" else pure []
    | some '#' =>
      let _ ← takeWhile (· ≠ '\n')
      steps fuel depth
    | some _ =>
      let first? ← address?
      blanks
      let second? ← do
        if (← peek?) = some ',' then
          let _ ← next?
          blanks
          if (← peek?) = some '+' then
            let _ ← next?
            pure (some (Address.behind (← number)))
          else if (← peek?) = some '~' then
            let _ ← next?
            pure (some (Address.multiple (← number)))
          else
            match ← address? with
            | some address => pure (some address)
            | none => fail "unexpected \x60,'"
        else pure none
      blanks
      match first?, second? with
      | some (.line 0), some (.pattern _) => pure ()
      | some (.line 0), _ =>
        let _ ← next?
        fail "invalid usage of line address 0"
      | _, _ => pure ()
      let negated := (← peek?) = some '!'
      let _ ← takeWhile fun c => c = '!' || isBlank c
      match ← next? with
      | none | some '\n' | some ';' =>
        modify fun state => { state with place := state.place - 1 }
        fail "missing command"
      | some letter =>
        if letter = '\x7d' ∧ depth = 0 then fail "unexpected \x60\x7d'"
        let found ← edit letter
        if endsItself found then pure () else ending
        let depth := match found with
          | .openGroup => depth + 1
          | .closeGroup => depth - 1
          | _ => depth
        return ⟨first?, second?, negated, found⟩ :: (← steps fuel depth)

/-- Reads a script, or says where and why that is not possible. -/
def read (extended : Bool) (text : String) : Except String (List Step) :=
  match steps (2 * text.length + 2) 0 ⟨text.toList, 0, extended⟩ with
  | .ok found _ => .ok found
  | .error why _ => .error why

end TraceWeave.Shell.Program.Sed
