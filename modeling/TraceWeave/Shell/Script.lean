import TraceWeave.Shell.Token

/-! Reading scripts.

A script is read line by line, so that a fault concerns only the line it is on and what follows. -/

namespace TraceWeave.Shell.Script

/-- The words that have a meaning of their own where a command may stand. -/
def keywords : List String :=
  ["!", "case", "do", "done", "elif", "else", "esac", "fi", "for", "if", "in", "then", "until",
    "while", "\x7b", "\x7d"]

/-- The keywords that end a list of commands. -/
def closers : List String := ["then", "else", "elif", "fi", "do", "done", "esac", "\x7d"]

/-- The commands whose names no function can take. -/
def reservedNames : List String :=
  [".", ":", "break", "continue", "eval", "exec", "exit", "export", "readonly", "return", "set",
    "shift", "times", "trap", "unset"]

def isCloser : Token → Bool
  | .keyword text => closers.contains text
  | .operator .closeParen | .operator .doubleSemicolon | .ending => true
  | _ => false

inductive Goal where
  /-- Commands up to what ends a list of them. -/
  | list (mayBeEmpty : Bool)
  | command

section
variable (nested : Goal → Reader Command)

def fail {α : Type} (token : Token) (expected? : Option Token) : Reader α :=
  throw (.unexpected token.name (expected?.map Token.name))

def putBack (token : Token) : Reader Unit := modify fun source => { source with ahead? := token }

def wordInner : Word.Inner where
  upToParen := do
    let _ ← nested (.list true)
    let token := (← get).ahead?.getD .ending
    modify fun source => { source with ahead? := none }
    if token.isOperator .closeParen then pure ()
    else fail token (some (.operator .closeParen))
  whole := do
    let _ ← nested (.list true)

def token : Reader Token := do
  match (← get).ahead? with
  | some token =>
    modify fun source => { source with ahead? := none }
    pure token
  | none => Token.read (wordInner nested)

def tokenBehindNewlines : Nat → Reader Token
  | 0 => token nested
  | fuel + 1 => do
    let found ← token nested
    if found.isOperator .newline then tokenBehindNewlines fuel else pure found

def commandToken (newlines : Bool) : Reader Token := do
  let bound ← Reader.bound
  let found ← tokenBehindNewlines nested (if newlines then bound else 0)
  match found with
  | .word word =>
    match word.plain? with
    | some text => if keywords.contains text then pure (.keyword text) else pure found
    | none => pure found
  | _ => pure found

def demand (keyword : String) : Reader Unit := do
  let found ← token nested
  if found.isKeyword keyword then pure () else fail found (some (.keyword keyword))

def word : Reader Word := do
  match ← token nested with
  | .word word => pure word
  | found => fail found none

def target (action : Redirection.Action) : Reader Word := do
  match action with
  | .readText => Token.below (wordInner nested)
  | _ => word nested

def redirections : Nat → Reader (List Redirection)
  | 0 => pure []
  | fuel + 1 => do
    match ← commandToken nested false with
    | .redirection descriptor action =>
      let target ← target nested action
      return ⟨descriptor, action, target⟩ :: (← redirections fuel)
    | found =>
      putBack found
      pure []

def function (name : Word) : Reader Command := do
  let found ← token nested
  if !found.isOperator .closeParen then fail found (some (.operator .closeParen))
  match name.plain? with
  | some name =>
    if isName name.toList ∧ ¬ reservedNames.contains name then
      return .define name (← nested .command)
    else throw .functionName
  | none => throw .functionName

/-- The rest of a simple command whose parts up to here are known, the last ones first. -/
def simpleFrom : Nat → Simple → Reader Command
  | 0, parts => pure (.simple parts)
  | fuel + 1, parts => do
    match ← token nested with
    | .word word =>
      match parts.words, Word.assignment? word with
      | [], some assignment =>
        simpleFrom fuel { parts with assignments := assignment :: parts.assignments }
      | _, _ => simpleFrom fuel { parts with words := word :: parts.words }
    | .redirection descriptor action =>
      let redirection := ⟨descriptor, action, ← target nested action⟩
      simpleFrom fuel { parts with redirections := redirection :: parts.redirections }
    | found =>
      match found.isOperator .openParen, parts with
      | true, ⟨_, [], [name], []⟩ => function nested name
      | _, ⟨line, assignments, words, redirections⟩ =>
        putBack found
        pure (.simple ⟨line, assignments.reverse, words.reverse, redirections.reverse⟩)

def simple (line : Nat) : Reader Command := do
  simpleFrom nested (← Reader.bound) ⟨line, [], [], []⟩

/-- What follows a condition: the branches up to the keyword that ends them. -/
def branches : Nat → Reader Command
  | 0 => throw .missingBrace
  | fuel + 1 => do
    let condition ← nested (.list false)
    demand nested "then"
    let yes ← nested (.list false)
    let found ← token nested
    if found.isKeyword "elif" then return .branch condition yes (← branches fuel)
    else if found.isKeyword "else" then return .branch condition yes (← nested (.list false))
    else
      putBack found
      pure (.branch condition yes .skip)

/-- The patterns of an arm, of which one has been read. -/
def patterns : Nat → Token → Reader (List Word)
  | 0, _ => pure []
  | fuel + 1, found => do
    let pattern : Word := match found with
      | .word word => word
      | .keyword text => [.text text.toList false]
      | _ => []
    let after ← token nested
    if after.isOperator .bar then return pattern :: (← patterns fuel (← token nested))
    else if after.isOperator .closeParen then pure [pattern]
    else fail after (some (.operator .closeParen))

def arms : Nat → Reader Command
  | 0 => pure .skip
  | fuel + 1 => do
    let found ← commandToken nested true
    if found.isKeyword "esac" then pure .skip
    else
      let first ← if found.isOperator .openParen then token nested else pure found
      let patterns ← patterns nested (← Reader.bound) first
      let body ← nested (.list true)
      let after ← commandToken nested true
      if after.isKeyword "esac" then pure (.arm patterns body .skip)
      else if after.isOperator .doubleSemicolon then return .arm patterns body (← arms fuel)
      else fail after (some (.operator .doubleSemicolon))

def words : Nat → Reader (List Word)
  | 0 => pure []
  | fuel + 1 => do
    match ← token nested with
    | .word word => return word :: (← words fuel)
    | found =>
      if found.isOperator .newline || found.isOperator .semicolon then pure []
      else fail found none

/-- A loop over the texts of some words, or over the arguments where there are none. -/
def loop (line : Nat) : Reader Command := do
  let name ← do
    match ← token nested with
    | .word word =>
      match word.plain? with
      | some name => if isName name.toList then pure name else throw .loopName
      | none => throw .loopName
    | _ => throw .loopName
  let found ← commandToken nested true
  let words ← do
    if found.isKeyword "in" then words nested (← Reader.bound)
    else
      if found.isOperator .semicolon then pure () else putBack found
      pure [[.parameter (.arguments true) .plain [] true]]
  let found ← commandToken nested true
  if !found.isKeyword "do" then fail found (some (.keyword "do"))
  return .each line name words (← nested (.list false))

/-- A command that ends with a keyword, and that keyword's token. -/
def compound? (line : Nat) (found : Token) : Reader (Option (Command × Option Token)) := do
  let closed (command : Command) (keyword : String) :
      Reader (Option (Command × Option Token)) := pure (some (command, some (.keyword keyword)))
  match found with
  | .keyword "if" => closed (← branches nested (← Reader.bound)) "fi"
  | .keyword "while" | .keyword "until" =>
    let condition ← nested (.list false)
    demand nested "do"
    closed (.repeat (found.isKeyword "until") condition (← nested (.list false))) "done"
  | .keyword "for" => closed (← loop nested line) "done"
  | .keyword "case" =>
    let subject ← do
      match ← token nested with
      | .word word => pure word
      | found => fail found (some (.word []))
    let found ← commandToken nested true
    if !found.isKeyword "in" then fail found (some (.keyword "in"))
    pure (some (.select line subject (← arms nested (← Reader.bound)), none))
  | .keyword "\x7b" => closed (← nested (.list false)) "\x7d"
  | .operator .openParen =>
    pure (some (.subshell line (← nested (.list false)), some (.operator .closeParen)))
  | _ => pure none

def command (newlines : Bool) : Reader Command := do
  let line := (← get).line
  let found ← commandToken nested newlines
  match ← compound? nested line found with
  | some (command, closing?) =>
    match closing? with
    | some closing =>
      let found ← token nested
      if found.name = closing.name then pure () else fail found (some closing)
    | none => pure ()
    match ← redirections nested (← Reader.bound) with
    | [] => pure command
    | redirections =>
      match command with
      | .subshell line command => pure (.subshell line (.redirected line command redirections))
      | _ => pure (.redirected line command redirections)
  | none =>
    match found with
    | .word _ | .redirection .. =>
      putBack found
      simple nested (← get).line
    | _ => fail found none

def pipes : Nat → Command → Reader Command
  | 0, first => pure first
  | fuel + 1, first => do
    let found ← token nested
    if found.isOperator .bar then
      return .pipe first (← pipes fuel (← command nested true))
    else
      putBack found
      pure first

def pipeline (newlines : Bool) : Reader Command := do
  let fuel ← Reader.bound
  let found ← commandToken nested newlines
  if found.isKeyword "!" then
    return .negated (← pipes nested fuel (← command nested false))
  else
    putBack found
    pipes nested fuel (← command nested newlines)

/-- A pipeline and those that run only if it succeeds or fails. -/
def chain : Nat → Command → Reader Command
  | 0, first => pure first
  | fuel + 1, first => do
    let found ← token nested
    if found.isOperator .bothSign then chain fuel (.both first (← pipeline nested true))
    else if found.isOperator .eitherSign then chain fuel (.either first (← pipeline nested true))
    else
      putBack found
      pure first

/-- One chain of commands and the token behind it, which says whether it is to run in the
background. -/
def item (newlines : Bool) : Reader (Command × Token) := do
  let fuel ← Reader.bound
  let command ← chain nested fuel (← pipeline nested newlines)
  let found ← token nested
  pure (if found.isOperator .ampersand then .background command else command, found)

def listFrom : Nat → Bool → Reader Command
  | 0, _ => pure .skip
  | fuel + 1, mayEnd => do
    let found ← commandToken nested true
    putBack found
    match found with
    | .ending => pure .skip
    | _ =>
      if mayEnd && isCloser found then pure .skip
      else
        let (command, found) ← item nested true
        match found with
        | .operator .ampersand | .operator .semicolon =>
          return .sequence command (← listFrom fuel true)
        | .operator .newline =>
          putBack found
          return .sequence command (← listFrom fuel true)
        | _ =>
          putBack found
          pure command

/-- The commands up to the end of the line, unless the script ends here. -/
def lineFrom : Nat → Bool → Reader (Option Command)
  | 0, _ => pure none
  | fuel + 1, started => do
    let found ← commandToken nested false
    match found with
    | .operator .newline => pure (some .skip)
    | .ending =>
      putBack found
      pure (if started then some .skip else none)
    | _ =>
      putBack found
      let (command, found) ← item nested false
      let onward : Reader (Option Command) := do
        match ← lineFrom fuel true with
        | some .skip | none => pure (some command)
        | some rest => pure (some (.sequence command rest))
      match found with
      | .operator .ampersand | .operator .semicolon => onward
      | .operator .newline | .ending =>
        putBack found
        onward
      | _ => fail found none

end

def parts : Nat → Goal → Reader Command
  | 0, _ => throw .missingBrace
  | depth + 1, .list mayBeEmpty => do
    listFrom (parts depth) (← Reader.bound) mayBeEmpty
  | depth + 1, .command => command (parts depth) true

/-- The text between a place and a later one, up to the end of the line there. -/
def textUpTo (start stop : Source) : String :=
  let taken := start.rest.take (start.rest.length - stop.rest.length)
  let ended := taken.getLast?.all (· = '\n')
  String.ofList (taken ++ if ended then [] else stop.rest.takeWhile (· ≠ '\n'))

/-- Reads one line after the other, each with its text if that may have to be shown. -/
def linesFrom (depth : Nat) (shown : Bool) : Nat → Source → Command
  | 0, _ => .skip
  | fuel + 1, source =>
    let text (after : Source) : String := if shown then textUpTo source after else ""
    match lineFrom (parts depth) (source.rest.length + 2) false source with
    | .ok none after => .read (text after) after.line .skip
    | .ok (some command) after =>
      .sequence (.read (text after) after.line command) (linesFrom depth shown fuel after)
    | .error fault after =>
      .sequence (.read (text after) after.line .skip) (.malformed after.line fault)

/-- Reads a whole script, whose first line has some number. A NUL counts as nothing. -/
def read (shown : Bool) (text : String) (line : Nat) : Command :=
  let fuel := text.length + 1
  linesFrom fuel shown fuel (.ofText (String.ofList (text.toList.filter (· ≠ '\x00'))) line)

/-- Reads the script between backquotes, of which nothing is taken behind what ends a list. -/
def readQuoted (text : String) : Command :=
  match parts (text.length + 1) (.list true) (.ofText text 1) with
  | .ok command _ => command
  | .error fault after => .malformed after.line fault

end TraceWeave.Shell.Script
