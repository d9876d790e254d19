import TraceWeave.Shell.Source

/-! Reading words.

What a character means depends on where it stands: outside quotes, between them, between braces
after a dollar sign, in an expression or in a text below a command. -/

namespace TraceWeave.Shell.Word

inductive Closer where
  /-- A character that parts words. -/
  | gap
  | quote
  | brace
  /-- Two closing parentheses behind as many single ones as are open. -/
  | parens (opened : Nat)
  /-- The end of the text. -/
  | ending
  deriving DecidableEq

structure Context where
  closer : Closer
  /-- Whether blanks, patterns and single quotes are ordinary characters. -/
  quoted : Bool
  /-- Between quotes in braces that stand between quotes, where a brace closes nothing. -/
  inner : Bool
  /-- In a text below a command. -/
  below : Bool

def Context.plain : Context := ⟨.gap, false, false, false⟩

/-- The text of a body below a command. -/
def Context.body : Context := ⟨.ending, true, false, true⟩

def isGap (c : Char) : Bool := " \t\n;&|<>()".toList.contains c

/-- Whether a character never means anything but itself. -/
def isOrdinary (c : Char) : Bool := isNameChar c || "-./,:+=@%^".toList.contains c

def special? (c : Char) : Option Parameter :=
  match c with
  | '#' => some .count
  | '?' => some .status
  | '$' => some .process
  | '!' => some .background
  | '-' => some .options
  | '*' => some (.arguments false)
  | '@' => some (.arguments true)
  | _ => none

def named? : Reader (Option Parameter) := do
  match ← Reader.peek? with
  | none => pure none
  | some c =>
    if isNameStart c then
      return some (.named (String.ofList (← Reader.takeWhile isNameChar)))
    else if c.isDigit then
      let digits ← Reader.takeWhile Char.isDigit
      return some (.argument ((String.ofList digits).toNat?.getD 0))
    else pure none

def symbol? : Reader (Option Parameter) := do
  match (← Reader.peek?).bind special? with
  | some parameter =>
    Reader.skip
    pure (some parameter)
  | none => pure none

/-- The form that is chosen by what follows a parameter between braces, and whether a word belongs
to it. -/
def form : Reader (Form × Bool) := do
  let nonempty ← Reader.take ':'
  let chosen (form : Form) : Reader (Form × Bool) := do
    Reader.skip
    pure (form, true)
  let trim (c : Char) (atEnd : Bool) : Reader (Form × Bool) := do
    Reader.skip
    pure (.trim atEnd (← Reader.take c), true)
  match ← Reader.peek? with
  | some '-' => chosen (.default nonempty)
  | some '=' => chosen (.assign nonempty)
  | some '?' => chosen (.require nonempty)
  | some '+' => chosen (.alternative nonempty)
  | some '\x7d' =>
    Reader.skip
    pure (.plain, nonempty)
  | some '#' => if nonempty then chosen .malformed else trim '#' false
  | some '%' => if nonempty then chosen .malformed else trim '%' true
  | some '\n' =>
    Reader.skip
    modify fun source => { source with line := source.line - 1 }
    pure (.malformed, true)
  | some _ => chosen .malformed
  | none => pure (.malformed, true)

/-- The parameter and the form between braces after a dollar sign, and whether a word and the
closing brace are still to come. -/
def braced : Reader (Parameter × Form × Bool) := do
  let malformed : Parameter × Form × Bool := (.count, .malformed, true)
  let formed (parameter : Parameter) : Reader (Parameter × Form × Bool) := do
    let (form, more) ← form
    pure (parameter, form, more)
  match ← named? with
  | some parameter => formed parameter
  | none =>
    match ← Reader.peek? with
    | none | some '\x7d' => pure malformed
    | some '#' =>
      Reader.skip
      let start ← get
      let measured? ← do
        match ← named? with
        | some parameter => pure (some parameter)
        | none => symbol?
      match measured? with
      | some parameter =>
        if (← Reader.peek?) = some '\x7d' then pure (parameter, .length, true)
        else
          match parameter with
          | .named _ | .argument _ => pure malformed
          | _ =>
            set start
            formed .count
      | none => formed .count
    | some c =>
      Reader.skip
      match special? c with
      | some parameter => formed parameter
      | none => pure malformed

def literally : Reader (List Char) := do
  let text := (← get).rest.takeWhile (· ≠ '\'')
  text.forM fun _ => Reader.skip
  if (← Reader.peekRaw?).isNone then throw .unterminatedQuote
  Reader.skip
  pure text

/-- The script between backquotes, in which a backslash protects those, itself and a dollar
sign. -/
def backquoted (quoted : Bool) : Nat → Reader (List Char)
  | 0 => throw .unterminatedOutput
  | fuel + 1 => do
    match ← Reader.peek? with
    | none => throw .unterminatedOutput
    | some c =>
      Reader.skip
      if c = '\x60' then pure []
      else if c = '\\' then
        match ← Reader.peekRaw? with
        | none => throw .unterminatedOutput
        | some d =>
          Reader.skip
          let protects := "\\\x60$".toList.contains d || (quoted && d = '"')
          let rest ← backquoted quoted fuel
          pure (if protects then d :: rest else '\\' :: d :: rest)
      else return c :: (← backquoted quoted fuel)

/-- What reading a word needs to know about commands: how to read those up to a parenthesis that
closes them, and those of a whole text. -/
structure Inner where
  upToParen : Reader Unit
  whole : Reader Unit

def dollar (inner : Inner) (word : Context → Reader Word) (context : Context) : Reader Word := do
  let quoted := context.quoted
  match ← Reader.peek? with
  | some '(' =>
    Reader.skip
    if (← Reader.peek?) = some '(' then
      Reader.skip
      let expression ← word { context with closer := .parens 0, quoted := true, inner := false }
      pure [.value expression quoted]
    else
      let start ← get
      inner.upToParen
      let taken := start.rest.length - (← get).rest.length - 1
      pure [.output (some start.line) (String.ofList (start.rest.take taken)) quoted]
  | some '\x7b' =>
    Reader.skip
    let (parameter, form, more) ← braced
    if more then
      let trims : Bool := match form with
        | .trim .. => true
        | _ => false
      let below := context.below && !trims
      let argument ← word ⟨.brace, quoted && !trims, false, below⟩
      pure [.parameter parameter form argument quoted]
    else pure [.parameter parameter form [] quoted]
  | some c =>
    if isNameStart c then
      match ← named? with
      | some parameter => pure [.parameter parameter .plain [] quoted]
      | none => pure [.text ['$'] quoted]
    else if c.isDigit then
      Reader.skip
      pure [.parameter (.argument (c.toNat - '0'.toNat)) .plain [] quoted]
    else
      match special? c with
      | some parameter =>
        Reader.skip
        pure [.parameter parameter .plain [] quoted]
      | none => pure [.text ['$'] quoted]
  | none => pure [.text ['$'] quoted]

def escaped (context : Context) : Reader Word := do
  match ← Reader.peekRaw? with
  | none => pure [.text ['\\'] true]
  | some c =>
    Reader.skip
    let nested := context.closer == .brace
    let protects := !context.quoted || "\\\x60$".toList.contains c
      || (c = '"' && (!context.below || nested)) || (c = '\x7d' && nested)
    pure [.text (if protects then [c] else ['\\', c]) true]

/-- Whether a piece between quotes is all arguments as separate texts and nothing else. -/
def isArguments : Word → Bool
  | [.parameter (.arguments true) .plain _ true] => true
  | _ => false

def unclosed? (context : Context) : Option Fault :=
  match context.closer with
  | .gap | .ending => none
  | .quote => some .unterminatedQuote
  | .brace =>
    if context.quoted && !context.below then some .unterminatedQuote else some .missingBrace
  | .parens _ => some .missingParens

/-- The pieces up to what closes them. -/
def pieces (inner : Inner) : Nat → Context → Reader Word
  | 0, _ => throw .unterminatedQuote
  | fuel + 1, context => do
    let onward (found : Word) : Reader Word := do
      return found ++ (← pieces inner fuel context)
    let literal (c : Char) : Reader Word := do
      Reader.skip
      onward [.text [c] context.quoted]
    match ← Reader.peek? with
    | none =>
      match unclosed? context with
      | some fault => throw fault
      | none => pure []
    | some c =>
      if isOrdinary c then onward [.text (← Reader.takeWhile isOrdinary) context.quoted]
      else
        match c, context.closer with
        | '$', _ =>
          Reader.skip
          onward (← dollar inner (pieces inner fuel) context)
        | '\x60', _ =>
          Reader.skip
          let script := String.ofList (← backquoted context.quoted (fuel + 1))
          Reader.within (.ofText script 1) inner.whole
          onward [.output none script context.quoted]
        | '\\', _ =>
          Reader.skip
          onward (← escaped context)
        | '(', .parens opened =>
          Reader.skip
          return .text [c] true
            :: (← pieces inner fuel { context with closer := .parens (opened + 1) })
        | ')', .parens (opened + 1) =>
          Reader.skip
          return .text [c] true :: (← pieces inner fuel { context with closer := .parens opened })
        | ')', .parens 0 =>
          Reader.skip
          if ← Reader.take ')' then pure [] else onward [.text [c] true]
        | '"', .parens _ | '"', .ending => literal c
        | '"', .quote =>
          Reader.skip
          pure []
        | '"', _ =>
          Reader.skip
          if context.quoted then pieces inner fuel { context with inner := !context.inner }
          else
            let found ← pieces inner fuel ⟨.quote, true, false, false⟩
            onward (if isArguments found then found else .text [] true :: found)
        | '\x7d', .brace =>
          if context.inner then literal c
          else
            Reader.skip
            pure []
        | '\'', _ =>
          if context.quoted then literal c
          else
            Reader.skip
            onward [.text (← literally) true]
        | _, .gap => if isGap c then pure [] else literal c
        | _, _ => literal c

def joined : Word → Word
  | .text a quoted :: rest =>
    match joined rest with
    | .text b quoted' :: more =>
      if quoted = quoted' then .text (a ++ b) quoted :: more
      else .text a quoted :: .text b quoted' :: more
    | rest => .text a quoted :: rest
  | piece :: rest => piece :: joined rest
  | [] => []

def reader (inner : Inner) : Reader Word := do
  return joined (← pieces inner (2 * (← Reader.bound)) .plain)

def bodyReader (inner : Inner) : Reader Word := do
  return joined (← pieces inner (2 * (← Reader.bound)) .body)

def assignment? : Word → Option (String × Word)
  | .text text false :: rest =>
    let name := text.takeWhile (· ≠ '=')
    match text.drop name.length with
    | _ :: value =>
      if isName name then
        some (String.ofList name, if value.isEmpty then rest else .text value false :: rest)
      else none
    | [] => none
  | _ => none

end TraceWeave.Shell.Word
