import TraceWeave.Shell.Arithmetic
import TraceWeave.Shell.Field
import TraceWeave.Shell.Subshell

/-! What words stand for: the values of their parameters, the output of their commands and the
values of their expressions. -/

namespace TraceWeave.Shell

/-- The texts that a script can list: the values of parameters that are more than one. -/
inductive Value where
  | none
  | text (text : String)
  | texts (texts : List String) (separate : Bool)

namespace Session

/-- The output of a script inside a word, without line ends at its end. -/
def output (outside : Outside) (line? : Option Nat) (script : String) : Action String := do
  let command := match line? with
    | some line => Script.read false script line
    | none => Script.readQuoted script
  let line := (← get).line
  let status := (← get).status
  let printed ← capturing do
    isolated outside (outside.run command ⟨false, ""⟩)
    runJobs outside
  modify fun session => { session with captured := session.status, line, status }
  let shown := printed.toList.filter (· ≠ '\x00')
  pure (String.ofList (shown.reverse.dropWhile (· = '\n')).reverse)

def valueOf (parameter : Parameter) : Action Value := do
  let session ← get
  let scope := session.scope
  let text (text : String) : Action Value := pure (.text text)
  match parameter with
  | .argument 0 => text scope.title
  | .argument position => pure ((scope.arguments[position - 1]?).elim .none .text)
  | .arguments separate => pure (.texts scope.arguments separate)
  | .count => text (toString scope.arguments.length)
  | .status => text (toString session.status)
  | .process => text (toString scope.process)
  | .background => pure ((scope.background?.map toString).elim .none .text)
  | .options => text scope.letters
  | .named name => pure ((scope.value? name).elim .none .text)

/-- Arguments as one text. -/
def joinedArguments (texts : List String) : Action String := do
  let separator := String.ofList ((← get).scope.separators.take 1)
  pure (separator.intercalate texts)

/-- The atoms of a value. Where fields are wanted arguments stay apart. -/
def atomsOf (quoted fields : Bool) : Value → Action (List Atom)
  | .none => pure []
  | .text text => pure (Atom.ofText text.toList quoted (!quoted))
  | .texts texts separate => do
    if fields ∧ quoted ∧ separate then
      if texts.isEmpty then pure []
      else
        let parts := texts.map fun text => Atom.ofText text.toList true false
        pure (.edge :: [Atom.border].intercalate parts)
    else if fields ∧ ¬ quoted ∧ (← get).scope.separators.isEmpty then
      let parts := texts.map fun text => Atom.ofText text.toList false true
      pure ([Atom.border].intercalate (parts.filter (!·.isEmpty)))
    else pure (Atom.ofText (← joinedArguments texts).toList quoted (!quoted))

/-- Whether a value counts as one, where an empty one may not. -/
def isGiven (nonempty : Bool) : Value → Bool
  | .none => false
  | .text text => !(nonempty && text.isEmpty)
  | .texts texts _ => !(nonempty && texts.all String.isEmpty)

def lengthOf : Value → Nat
  | .none => 0
  | .text text => text.length
  | .texts texts _ => (String.join texts).length + (texts.length - 1)

def mapValue (change : List Char → List Char) : Value → Value
  | .none => .none
  | .text text => .text (String.ofList (change text.toList))
  | .texts texts separate =>
    .texts (texts.map fun text => String.ofList (change text.toList)) separate

/-- The value of a parameter that has to be set if the script asks for that. -/
def requiredValueOf (parameter : Parameter) : Action Value := do
  let value ← valueOf parameter
  if !isGiven false value && (← get).scope.has "nounset" then
    fail (parameter.name ++ ": parameter not set")
  pure value

def compute (expression : String) : Action String := do
  let scope := (← get).scope
  match Arithmetic.evaluate scope.value? expression.toList with
  | .ok (value, assigned) =>
    assigned.forM fun (name, value) => assign name (toString value.toInt)
    pure (toString value.toInt)
  | .error problem =>
    let said (what : String) := "arithmetic expression: " ++ what ++ ": \"" ++ expression ++ "\""
    match problem with
    | .expecting what => fail (said ("expecting " ++ what))
    | .divisionByZero => fail (said "division by zero")
    | .illegal text => fail ("Illegal number: " ++ text)

mutual

/-- The atoms of a word. In a word that is part of another one plain text can be parted too. -/
def atoms (outside : Outside) (fields nested : Bool) : List Piece → Action (List Atom)
  | [] => pure []
  | piece :: rest => do
    let first ← pieceAtoms outside fields nested piece
    return first ++ (← atoms outside fields nested rest)

def pieceAtoms (outside : Outside) (fields nested : Bool) : Piece → Action (List Atom)
  | .text text quoted =>
    if text.isEmpty then pure (if quoted then [.edge] else [])
    else pure (Atom.ofText text quoted (nested && !quoted))
  | .output line? script quoted => do
    atomsOf quoted fields (.text (← output outside line? script))
  | .value expression quoted => do
    let atoms ← atoms outside false false expression
    atomsOf quoted fields (.text (← compute (Atom.text atoms)))
  | .parameter parameter form word quoted => do
    match form with
    | .plain => atomsOf quoted fields (← requiredValueOf parameter)
    | .length =>
      atomsOf quoted fields (.text (toString (lengthOf (← requiredValueOf parameter))))
    | .default nonempty =>
      let value ← valueOf parameter
      if isGiven nonempty value then atomsOf quoted fields value
      else atoms outside fields true word
    | .alternative nonempty =>
      if isGiven nonempty (← valueOf parameter) then atoms outside fields true word else pure []
    | .assign nonempty =>
      let value ← valueOf parameter
      if isGiven nonempty value then atomsOf quoted fields value
      else
        let text := Atom.text (← atoms outside false true word)
        assign parameter.name text
        atomsOf quoted fields (.text text)
    | .require nonempty =>
      let value ← valueOf parameter
      if isGiven nonempty value then atomsOf quoted fields value
      else if word.isEmpty then
        fail (parameter.name ++ ": parameter not set" ++ (if nonempty then " or null" else ""))
      else fail (parameter.name ++ ": " ++ Atom.text (← atoms outside false true word))
    | .trim atEnd longest =>
      let value ← requiredValueOf parameter
      let pattern := Pattern.read (Atom.marked (← atoms outside false true word))
      atomsOf quoted fields (mapValue (pattern.trim atEnd longest) value)
    | .malformed => fail "Bad substitution"

end

/-- What stands behind a tilde at the start of a text, if the tilde means the home directory. -/
def behindTilde? (text : List Char) : Option (List Char) :=
  match text with
  | ['~'] => some []
  | '~' :: '/' :: rest => some ('/' :: rest)
  | _ => none

/-- A word with the home directory in the place of tildes: at its start and, in the value of a
variable, behind colons. -/
def withHome (home? : Option String) (behindColons : Bool) (word : Word) : Word :=
  match home?, word with
  | some home, .text text false :: rest =>
    let last := rest.isEmpty
    let pieceOf (part : List Char) (last : Bool) : Word :=
      match behindTilde? part with
      | some behind =>
        if behind.isEmpty ∧ ¬ last then [.text part false]
        else [.text home.toList true, .text behind false]
      | none => [.text part false]
    if behindColons then
      let parts := (String.ofList text).splitOn ":"
      let count := parts.length
      let pieces := parts.mapIdx fun i part => pieceOf part.toList (last || i + 1 < count)
      [Piece.text [':'] false].intercalate pieces ++ rest
    else pieceOf text last ++ rest
  | _, _ => word

def homed (behindColons : Bool) (word : Word) : Action Word := do
  return withHome ((← get).scope.value? "HOME") behindColons word

/-- The text that a word stands for where it is not to be parted. -/
def wholeText (outside : Outside) (word : Word) : Action String := do
  return Atom.text (← atoms outside false false (← homed false word))

def assignedText (outside : Outside) (word : Word) : Action String := do
  return Atom.text (← atoms outside false false (← homed true word))

def patternOf (outside : Outside) (word : Word) : Action Pattern := do
  return Pattern.read (Atom.marked (← atoms outside false false (← homed false word)))

/-- The paths that a field stands for, or its text if it is no pattern of any. -/
def pathsOf (field : List Pattern.Marked) : Action (List String) := do
  let session ← get
  let text := String.ofList (field.map Prod.fst)
  if session.scope.has "noglob" || !field.any Pattern.isMagic then pure [text]
  else
    let shown (name : String) : List Char := (Raw.ofText name).toList
    match Pattern.expandPaths session.system.files shown field with
    | [] => pure [text]
    | found => pure (found.map String.ofList)

def texts (outside : Outside) (word : Word) : Action (List String) := do
  let atoms ← atoms outside true false (← homed false word)
  let fields := Atom.fields (← get).scope.separators (atoms.length + 1) none atoms
  return (← fields.mapM pathsOf).flatten

end Session

end TraceWeave.Shell
