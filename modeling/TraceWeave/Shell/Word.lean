/-! Words of a script: sequences of pieces, each a text, the value of a parameter, the output of
commands or the value of an expression. -/

namespace TraceWeave.Shell

inductive Parameter where
  /-- An argument by its position; the one at 0 is the name of the script. -/
  | argument (position : Nat)
  /-- All arguments, inside quotes as separate texts or as one. -/
  | arguments (separate : Bool)
  | count
  | status
  | process
  /-- The process of the last command in the background. -/
  | background
  | options
  | named (name : String)
  deriving DecidableEq

namespace Parameter

def name : Parameter → String
  | .argument position => toString position
  | .arguments separate => if separate then "@" else "*"
  | .count => "#"
  | .status => "?"
  | .process => "$"
  | .background => "!"
  | .options => "-"
  | .named name => name

end Parameter

/-- What is made of the value of a parameter, some forms with the help of a word. Where `nonempty`
holds an empty value counts as none. -/
inductive Form where
  | plain
  | length
  /-- The word in the place of no value. -/
  | default (nonempty : Bool)
  /-- The word, which also becomes the value, in the place of no value. -/
  | assign (nonempty : Bool)
  /-- A fault that the word tells, in the place of no value. -/
  | require (nonempty : Bool)
  /-- The word in the place of a value. -/
  | alternative (nonempty : Bool)
  | trim (atEnd longest : Bool)
  | malformed
  deriving DecidableEq

inductive Piece where
  | text (text : List Char) (quoted : Bool)
  | parameter (parameter : Parameter) (form : Form) (word : List Piece) (quoted : Bool)
  /-- The output of commands, which begin on some line. Those between backquotes have lines of their
  own. -/
  | output (line? : Option Nat) (script : String) (quoted : Bool)
  /-- The value of an expression. -/
  | value (expression : List Piece) (quoted : Bool)

abbrev Word := List Piece

namespace Word

/-- The text of a word that holds nothing to be quoted or replaced. -/
def plain? : Word → Option String
  | [] => some ""
  | .text text false :: rest => (plain? rest).map (String.ofList text ++ ·)
  | _ => none

def literal? : Word → Option String
  | [] => some ""
  | .text text _ :: rest => (literal? rest).map (String.ofList text ++ ·)
  | _ => none

end Word

def isNameStart (c : Char) : Bool := c.isAlpha || c = '_'
def isNameChar (c : Char) : Bool := isNameStart c || c.isDigit

def isName (text : List Char) : Bool :=
  match text with
  | [] => false
  | c :: rest => isNameStart c && rest.all isNameChar

end TraceWeave.Shell
