import TraceWeave.Shell.Builtin.Options
import TraceWeave.Shell.Field

/-! The session's own commands that are about variables, arguments and options. -/

namespace TraceWeave.Shell.Session

def assignmentIn (argument : String) : String × Option String :=
  let text := argument.toList
  let name := text.takeWhile (· ≠ '=')
  (String.ofList name,
    if name.length < text.length then some (String.ofList (text.drop (name.length + 1))) else none)

def list (command : String) (shown : Binding → Bool) : Action Unit := do
  (← get).scope.sorted.forM fun (name, binding) => do
    if shown binding then
      let value := (binding.value?.map fun value => "=" ++ quoted value).getD ""
      print (command ++ name ++ value ++ "\n")

def mark (command : String) (shown : Binding → Bool) (marked : Binding → Binding)
    (arguments : List String) : Action Unit := do
  let (options, names) ← options "p" "" arguments
  if names.isEmpty ∨ ¬ options.isEmpty then list (command ++ " ") shown
  else
    names.forM fun argument => do
      let (name, value?) := assignmentIn argument
      match value? with
      | some value => assign name value
      | none => requireName name
      modifyScope fun scope => scope.put name (marked (scope.binding name))

def exportNames : List String → Action Unit :=
  mark "export" (·.exported) ({ · with exported := true })

def fixNames : List String → Action Unit :=
  mark "readonly" (·.fixed) ({ · with fixed := true })

def unsetNames (arguments : List String) : Action Unit := do
  let (options, names) ← options "vf" "" arguments
  names.forM fun name => do
    if options.any (·.1 = 'f') then
      modifyScope fun scope =>
        { scope with functions := scope.functions.filter (·.1 ≠ name) }
    else
      requireName name
      unset name

def localNames (arguments : List String) : Action Unit := do
  match (← get).scope.saved with
  | [] => fail "not in a function"
  | _ =>
    arguments.forM fun argument => do
      let (name, value?) := assignmentIn argument
      requireName name
      modifyScope fun scope =>
        match scope.saved with
        | [] => scope
        | frame :: frames =>
          if (frame.lookup name).isSome then scope
          else { scope with saved := ((name, scope.binding name) :: frame) :: frames }
      match value? with
      | some value => assign name value
      | none => pure ()

def shift (arguments : List String) : Action Unit := do
  let count ← match arguments with
    | [] => pure 1
    | text :: _ => number text
  let scope := (← get).scope
  if scope.arguments.length < count then fail "can't shift that many"
  else modifyScope fun scope => { scope with arguments := scope.arguments.drop count }

/-! ### Options of the script -/

/-- Lists the options, for reading or as commands that would set them. -/
def listOptions (readable : Bool) : Action Unit := do
  let scope := (← get).scope
  if readable then print "Current option settings\n"
  optionTable.forM fun (name, _) => do
    let on := scope.has name
    if readable then
      let gap := String.ofList (List.replicate (16 - name.length) ' ')
      print (name ++ gap ++ (if on then "on" else "off") ++ "\n")
    else print ("set " ++ (if on then "-o " else "+o ") ++ name ++ "\n")

def setByLetter (letter : Char) (on : Bool) : Action Unit := do
  match optionOfLetter? letter with
  | some name => modifyScope (·.setOption name on)
  | none => fail ("Illegal option -" ++ String.singleton letter)

def setByName (name : String) (on : Bool) : Action Unit := do
  if optionTable.any fun row => row.1 == name then modifyScope (·.setOption name on)
  else fail ("Illegal option " ++ (if on then "-o " else "+o ") ++ name)

/-- Sets options by the letters of one argument. An `o` takes its name from the arguments. -/
def setLetters (on : Bool) : List Char → List String → Action (List String)
  | [], rest => pure rest
  | letter :: letters, rest => do
    if letter = 'o' then
      match rest with
      | [] =>
        listOptions on
        setLetters on letters []
      | name :: rest =>
        setByName name on
        setLetters on letters rest
    else
      setByLetter letter on
      setLetters on letters rest

/-- Sets options and gives back the other arguments, if there are to be any. -/
def setOptions : Nat → List String → Action (Option (List String))
  | 0, _ => pure none
  | fuel + 1, arguments => do
    match arguments with
    | [] => pure none
    | argument :: rest =>
      match argument.toList with
      | ['-', '-'] => pure (some rest)
      | ['-'] =>
        modifyScope fun scope => (scope.setOption "xtrace" false).setOption "verbose" false
        pure (if rest.isEmpty then none else some rest)
      | '-' :: letters => setOptions fuel (← setLetters true letters rest)
      | '+' :: letters => setOptions fuel (← setLetters false letters rest)
      | _ => pure (some arguments)

def setAnew (arguments : List String) : Action Unit := do
  if arguments.isEmpty then
    (← get).scope.sorted.forM fun (name, binding) =>
      binding.value?.forM fun value => print (name ++ "=" ++ quoted value ++ "\n")
  else
    match ← setOptions (arguments.length + 1) arguments with
    | some arguments => modifyScope ({ · with arguments })
    | none => pure ()

/-! ### Reading a line -/

/-- The characters of a line from the input and how many bytes it takes with its end. A backslash
protects the next character or, at the end, joins the next line, unless `bare`. The last part says
whether the line has an end. -/
def lineFrom (bare : Bool) : List UInt8 → List Atom × Nat × Bool
  | [] => ([], 0, false)
  | byte :: rest =>
    let c := Char.ofNat byte.toNat
    let counted (count : Nat) (atoms : List Atom) (found : List Atom × Nat × Bool) :=
      (atoms ++ found.1, found.2.1 + count, found.2.2)
    if c = '\n' then ([], 1, true)
    else if c = '\x00' then counted 1 [] (lineFrom bare rest)
    else if c = '\\' ∧ ¬ bare then
      match rest with
      | [] => ([], 1, false)
      | 10 :: rest => counted 2 [] (lineFrom bare rest)
      | next :: rest => counted 2 [.char (Char.ofNat next.toNat) true false] (lineFrom bare rest)
    else counted 1 [.char c false true] (lineFrom bare rest)

/-- Texts for so many variables: fields, and for the last one all that is left. -/
def fieldsFor (separators : List Char) : Nat → List Atom → List String
  | 0, _ => []
  | count + 1, atoms =>
    let isBlankSeparator : Atom → Bool
      | .char c _ true => separators.contains c && Atom.isBlank c
      | _ => false
    let isSeparator : Atom → Bool
      | .char c _ true => separators.contains c
      | _ => false
    let begun := atoms.dropWhile isBlankSeparator
    if count = 0 then
      match Atom.fields separators (begun.length + 1) none begun with
      | [] => [""]
      | [field] => [String.ofList (field.map Prod.fst)]
      | _ => [Atom.text (begun.reverse.dropWhile isBlankSeparator).reverse]
    else
      let field := begun.takeWhile (!isSeparator ·)
      let rest := match begun.drop field.length with
        | .char c _ _ :: rest => Atom.behindSeparator separators (Atom.isBlank c) rest
        | rest => rest
      Atom.text field :: fieldsFor separators count rest

def read (arguments : List String) : Action Unit := do
  let (options, names) ← options "r" "p" arguments
  if names.isEmpty then fail "arg count"
  let session ← get
  let bytes := (session.descriptors.stream? 0).map session.system.rest
  let (atoms, count, complete) :=
    lineFrom (options.any (·.1 = 'r')) ((bytes.getD ByteArray.empty).toList)
  match session.descriptors.stream? 0 with
  | some stream => modify fun session =>
    { session with system := session.system.advance stream count }
  | none => pure ()
  let texts := fieldsFor session.scope.separators names.length atoms
  (names.zip texts).forM fun (name, text) => assign name text
  setStatus (if complete then 0 else 1)

/-! ### Options of arguments -/

/-- Where the reading of options stands: the argument that comes next and what is left of the one
before it. -/
def optionPosition (scope : Scope) (given : List String) : Nat × List Char :=
  let index := scope.optionIndex
  match scope.optionOffset? with
  | some offset =>
    if index ≤ 1 then (index, [])
    else (index, (((given[index - 2]?).getD "").toList).drop offset)
  | none => (index, [])

structure FoundOption where
  name : String
  value? : Option String
  complaint? : Option String
  index : Nat
  /-- What is left of the argument before that index. -/
  rest : List Char

/-- The option of a letter that was found among the wanted ones. -/
def foundOption (wanted : List Char) (given : List String) (index : Nat) (letter : Char)
    (rest : List Char) : FoundOption :=
  let quiet := wanted.head? = some ':'
  let shown := String.singleton letter
  let missing (name complaint : String) : FoundOption :=
    if quiet then ⟨name, some shown, none, index, rest⟩
    else ⟨"?", none, some complaint, index, rest⟩
  match letter == ':', wanted.dropWhile (· ≠ letter) with
  | true, _ | _, [] => missing "?" ("Illegal option -" ++ shown)
  | _, _ :: ':' :: _ =>
    if !rest.isEmpty then ⟨shown, some (String.ofList rest), none, index, []⟩
    else
      match given[index - 1]? with
      | some value => ⟨shown, some value, none, index + 1, []⟩
      | none => missing ":" ("No arg for -" ++ shown ++ " option")
  | _, _ => ⟨shown, some "", none, index, rest⟩

/-- Looks for the next option. There is none where the arguments stop being options. -/
def nextOption? (wanted : List Char) (given : List String) (index : Nat) (rest : List Char) :
    Except Nat FoundOption :=
  match rest with
  | letter :: rest => .ok (foundOption wanted given index letter rest)
  | [] =>
    match ((given[index - 1]?).getD "").toList with
    | ['-', '-'] => .error (index + 1)
    | '-' :: letter :: rest => .ok (foundOption wanted given (index + 1) letter rest)
    | _ => .error index

/-- Reads the next option out of some arguments into a variable. -/
def getopts (arguments : List String) : Action Unit := do
  match arguments with
  | wanted :: name :: given =>
    let scope := (← get).scope
    let given := if given.isEmpty then scope.arguments else given
    let (index, rest) := optionPosition scope given
    let settle (name' : String) (index : Nat) (offset? : Option Nat) (status : Nat) :
        Action Unit := do
      assign "OPTIND" (toString index)
      modifyScope fun scope => { scope with optionIndex := index, optionOffset? := offset? }
      assign name name'
      setStatus status
    match nextOption? wanted.toList given index rest with
    | .error index => settle "?" index none 1
    | .ok found =>
      found.complaint?.forM note
      match found.value? with
      | some value => assign "OPTARG" value
      | none => unset "OPTARG"
      let length := ((given[found.index - 2]?).getD "").length
      settle found.name found.index (some (length - found.rest.length)) 0
  | _ => fail "Usage: getopts optstring var [arg...]"

end TraceWeave.Shell.Session
