import TraceWeave.Shell.Word

/-! Commands of a script.

Every part of a script that decides what is run next is a command with parts, so running a script
is recursion on it. A fault is a command as well: what stands on the lines before it still runs. -/

namespace TraceWeave.Shell

inductive Fault where
  | unterminatedQuote
  | unterminatedOutput
  | missingBrace
  | missingParens
  | loopName
  | functionName
  | descriptor
  /-- Something stands where nothing or, if it is known, something else must stand. -/
  | unexpected (found : String) (expected? : Option String)
  deriving DecidableEq

def Fault.message (fault : Fault) : String :=
  "Syntax error: " ++ match fault with
  | .unterminatedQuote => "Unterminated quoted string"
  | .unterminatedOutput => "EOF in backquote substitution"
  | .missingBrace => "Missing '\x7d'"
  | .missingParens => "Missing '))'"
  | .loopName => "Bad for loop variable"
  | .functionName => "Bad function name"
  | .descriptor => "Bad fd number"
  | .unexpected found none => found ++ " unexpected"
  | .unexpected found (some expected) => found ++ " unexpected (expecting " ++ expected ++ ")"

inductive Redirection.Action where
  | read
  /-- Reads the target itself. -/
  | readText
  | update
  /-- Writes from the start. Unless forced, a script can have files kept as they are. -/
  | write (forced : Bool)
  | append
  | duplicate
  deriving DecidableEq

structure Redirection where
  descriptor : Nat
  action : Redirection.Action
  target : Word

structure Simple where
  line : Nat
  assignments : List (String × Word)
  words : List Word
  redirections : List Redirection

inductive Command where
  | skip
  | simple (parts : Simple)
  | redirected (line : Nat) (command : Command) (redirections : List Redirection)
  /-- Runs a command and, on what it prints, the next ones. -/
  | pipe (first rest : Command)
  | background (command : Command)
  /-- Runs the second command if the first one succeeds. -/
  | both (first second : Command)
  /-- Runs the second command if the first one fails. -/
  | either (first second : Command)
  | negated (command : Command)
  | sequence (first second : Command)
  /-- Runs a command whose variables and exit do not concern the rest of the script. -/
  | subshell (line : Nat) (command : Command)
  | branch (condition yes no : Command)
  /-- Runs the body as long as the condition holds or, if `inverted`, until it does. -/
  | repeat (inverted : Bool) (condition body : Command)
  /-- Runs the first of some arms that the text of a word matches. -/
  | select (line : Nat) (subject : Word) (arms : Command)
  | arm (patterns : List Word) (body rest : Command)
  /-- Runs a command once for every text that some words stand for. -/
  | each (line : Nat) (name : String) (words : List Word) (body : Command)
  | define (name : String) (body : Command)
  /-- Runs a command that was read as a whole, by the text to be shown for that and the line where
  the reading stopped. -/
  | read (text : String) (last : Nat) (command : Command)
  | malformed (line : Nat) (fault : Fault)

def Command.isIdle : Command → Bool
  | .skip => true
  | .read _ _ command => command.isIdle
  | .sequence first second => first.isIdle && second.isIdle
  | _ => false

end TraceWeave.Shell
