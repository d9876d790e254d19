import TraceWeave.Shell.Word.Reader

/-! Reading tokens of a script: words, operators and redirections, with the texts that stand below
a command. -/

namespace TraceWeave.Shell.Token

/-- Passes over blanks and a comment. -/
def blanks : Nat → Reader Unit
  | 0 => pure ()
  | fuel + 1 => do
    match ← Reader.peek? with
    | some ' ' | some '\t' =>
      Reader.skip
      blanks fuel
    | some '#' =>
      let _ ← Reader.takeWhile (· ≠ '\n')
      pure ()
    | _ => pure ()

def redirected (sign : Char) (descriptor? : Option Nat) : Reader Token := do
  let found (standard : Nat) (action : Redirection.Action) : Reader Token :=
    pure (.redirection (descriptor?.getD standard) action)
  if sign = '>' then
    if ← Reader.take '>' then found 1 .append
    else if ← Reader.take '|' then found 1 (.write true)
    else if ← Reader.take '&' then found 1 .duplicate
    else found 1 (.write false)
  else if ← Reader.take '<' then found 0 .readText
  else if ← Reader.take '&' then found 0 .duplicate
  else if ← Reader.take '>' then found 0 .update
  else found 0 .read

def descriptor? : Reader (Option Nat) := fun source =>
  match source.rest with
  | c :: d :: _ =>
    if c.isDigit ∧ (d = '<' ∨ d = '>') then .ok (some (c.toNat - '0'.toNat)) source.skip
    else .ok none source
  | _ => .ok none source

def read (inner : Word.Inner) : Reader Token := do
  blanks (← Reader.bound)
  let sign (operator : Operator) : Reader Token := pure (.operator operator)
  let double (c : Char) (one two : Operator) : Reader Token := do
    Reader.skip
    if ← Reader.take c then sign two else sign one
  match ← Reader.peek? with
  | none => pure .ending
  | some '\n' =>
    Reader.skip
    sign .newline
  | some ';' => double ';' .semicolon .doubleSemicolon
  | some '&' => double '&' .ampersand .bothSign
  | some '|' => double '|' .bar .eitherSign
  | some '(' =>
    Reader.skip
    sign .openParen
  | some ')' =>
    Reader.skip
    sign .closeParen
  | some _ =>
    let number? ← descriptor?
    match ← Reader.peek? with
    | some '<' =>
      Reader.skip
      redirected '<' number?
    | some '>' =>
      Reader.skip
      redirected '>' number?
    | _ => return .word (← Word.reader inner)

/-! ### Texts below a command -/

/-- The text of a mark and whether some of it is quoted. -/
def mark : Nat → Reader (List Char × Bool)
  | 0 => pure ([], false)
  | fuel + 1 => do
    match ← Reader.peek? with
    | none => pure ([], false)
    | some c =>
      let onward (text : List Char) (quoted : Bool) : Reader (List Char × Bool) := do
        let (rest, more) ← mark fuel
        pure (text ++ rest, quoted || more)
      if Word.isGap c then pure ([], false)
      else
        Reader.skip
        if c = '\\' then
          let taken := (← Reader.peekRaw?).toList
          Reader.skip
          onward taken true
        else if c = '\'' then onward (← Word.literally) true
        else if c = '"' then
          let text ← Reader.takeWhile (· ≠ '"')
          if ← Reader.take '"' then onward text true else throw .unterminatedQuote
        else onward [c] false

/-- Whether a backslash at its end joins a line to the next one. -/
def isContinued (line : List Char) : Bool :=
  (line.reverse.takeWhile (· = '\\')).length % 2 = 1

/-- The lines in front of the one that is just `mark`, without leading tabs if `bare`, and what
follows that line. Where lines are `joinable` one that continues another is no mark. -/
def linesBefore (mark : List Char) (bare joinable : Bool) : Nat → Bool → List Char →
    List Char × List Char
  | 0, _, text => ([], text)
  | fuel + 1, continues, text =>
    let line := text.takeWhile (· ≠ '\n')
    let shown := if bare then line.dropWhile (· = '\t') else line
    let rest := (text.drop line.length).drop 1
    if text.isEmpty ∨ (shown = mark ∧ ¬ continues) then ([], rest)
    else
      let (more, rest) := linesBefore mark bare joinable fuel (joinable && isContinued line) rest
      let ending := if (text.drop line.length).isEmpty then [] else ['\n']
      (shown ++ ending ++ more, rest)

/-- Takes the lines up to a mark out of what stands below the current line. -/
def takeBelow (mark : List Char) (bare joinable : Bool) : Reader (List Char) := fun source =>
  let line := source.rest.takeWhile (· ≠ '\n')
  match source.rest.drop line.length with
  | [] => .ok [] source
  | _ :: under =>
    let (lines, after) := linesBefore mark bare joinable (under.length + 1) false under
    let taken := under.take (under.length - after.length)
    .ok lines { source with
      rest := line ++ '\n' :: after
      below := source.below + taken.count '\n' }

/-- The text that a mark after `<<` announces, as a word. Quotes around the mark keep everything
in the text as it is. -/
def below (inner : Word.Inner) : Reader Word := do
  let bare ← Reader.take '-'
  blanks (← Reader.bound)
  match ← Reader.peek? with
  | some c =>
    if Word.isGap c then throw (.unexpected (← read inner).name none)
  | none => throw (.unexpected Token.ending.name none)
  let (mark, quoted) ← mark (← Reader.bound)
  let lines ← takeBelow mark bare (!quoted)
  if quoted then pure [.text lines true]
  else Reader.within ⟨lines, (← get).line + 1, 0, none⟩ (Word.bodyReader inner)

end TraceWeave.Shell.Token
