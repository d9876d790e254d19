import TraceWeave.Shell.Builtin

/-! Running scripts. -/

namespace TraceWeave.Shell.Session

/-! ### Redirections -/

def refusal (action : Redirection.Action) (target : String) (cause : Cause) : String :=
  let (verb, missing) := match action with
    | .read => ("open", "No such file")
    | _ => ("create", "Directory nonexistent")
  let reason := match cause with
    | .noEntry | .notDirectory => missing
    | cause => cause.reason
  "cannot " ++ verb ++ " " ++ target ++ ": " ++ reason

def refuse (text : String) : Action Bool := do
  complain text
  setStatus 2
  pure false

def setDescriptor (number stream : Nat) : Action Bool := do
  modify fun session => { session with descriptors := session.descriptors.set number stream }
  pure true

def descriptorOf? (target : String) : Option Nat :=
  if target.length = 1 then target.toNat? else none

/-- Makes a descriptor another name of one that is open, or closes it. -/
def duplicate (number : Nat) (target : String) : Action Bool := do
  let descriptors := (← get).descriptors
  if target = "-" then
    modify fun session => { session with descriptors := descriptors.without number }
    pure true
  else
    match descriptorOf? target with
    | some other =>
      match descriptors.stream? other with
      | some stream => setDescriptor number stream
      | none =>
        if other = number then pure true
        else refuse (target ++ ": " ++ Cause.badDescriptor.reason)
    | none =>
      modify fun session => { session with line := session.reached }
      fail Fault.descriptor.message

/-- Whether a file stands in the way of a redirection that is not to replace any. -/
def isKept (action : Redirection.Action) (target : String) : Action Bool := do
  let session ← get
  match session.system.files.find (Raw.text target) with
  | .ok (_, .file ..) => pure (action == .write false && session.scope.has "noclobber")
  | _ => pure false

def redirect (outside : Outside) (redirection : Redirection) : Action Bool := do
  let target ← wholeText outside redirection.target
  let session ← get
  let opened (mode : OpenMode) : Action Bool := do
    if ← isKept redirection.action target then
      refuse (refusal redirection.action target .exists)
    else
      match session.system.openPath session.descriptors (Raw.text target) mode with
      | .ok (stream, system) =>
        set { session with system }
        setDescriptor redirection.descriptor stream
      | .error cause => refuse (refusal redirection.action target cause)
  match redirection.action with
  | .read => opened .read
  | .write _ => opened .write
  | .append => opened .append
  | .update => opened .update
  | .duplicate => duplicate redirection.descriptor target
  | .readText =>
    let (stream, system) := session.system.add (.pipe (Raw.bytes target) 0)
    set { session with system }
    setDescriptor redirection.descriptor stream

def redirectAll (outside : Outside) : List Redirection → Action Bool
  | [] => pure true
  | redirection :: more => do
    if ← redirect outside redirection then redirectAll outside more else pure false

/-! ### Endings -/

/-- Runs an action and says how it left off, if it did. -/
def caught (action : Action Unit) : Action (Option Ending) := fun session =>
  match action session with
  | .ok () after => .ok none after
  | .error ending after => .ok (some ending) after

/-- Runs an action and changes something afterwards, however it ended. -/
def thereafter (last : Session → Session) (action : Action Unit) : Action Unit := fun session =>
  match action session with
  | .ok () after => .ok () (last after)
  | .error ending after => .error ending (last after)

/-- Runs an action after which the descriptors are what they were. -/
def keepingDescriptors (action : Action Unit) : Action Unit := do
  let descriptors := (← get).descriptors
  thereafter (fun after => { after with descriptors }) action

/-! ### Simple commands -/

/-- Whether the assignments among the arguments of a command are not parted. -/
def assigns (words : List String) : Bool :=
  match words with
  | name :: _ => ["export", "readonly", "local"].contains name
  | [] => false

/-- The texts of the words of a command, of which the first are known. -/
def expandFrom (outside : Outside) (known : List String) : List Word → Action (List String)
  | [] => pure known
  | word :: words => do
    let bare := known.dropWhile (· = "command")
    let found ← match assigns bare, Word.assignment? word with
      | true, some _ => do pure [← assignedText outside word]
      | _, _ => texts outside word
    expandFrom outside (known ++ found) words

/-- Writes a command down before it runs, where the script asks for that. -/
def trace (outside : Outside) (assignments : List (String × String)) (words : List String) :
    Action Unit := do
  let session ← get
  if session.scope.has "xtrace" then
    let mark ← match session.scope.value? "PS4" with
      | some text =>
        let inner : Word.Inner := ⟨pure (), pure ()⟩
        match Word.bodyReader inner (.ofText text 1) with
        | .ok word _ =>
          modifyScope (·.setOption "xtrace" false)
          let text ← wholeText outside word
          modifyScope (·.setOption "xtrace" true)
          pure text
        | .error .. => pure text
      | none => pure ""
    let parts := assignments.map (fun (name, value) => name ++ "=" ++ value) ++ words
    note (mark ++ " ".intercalate parts)

def flush (name : String) : Action Unit := do
  let text := (← get).printed
  modify fun session => { session with printed := "" }
  if text.isEmpty then pure ()
  else if ← write 1 text then pure ()
  else
    complain (name ++ ": I/O error")
    setStatus 1

/-- Runs a command of the session itself. What goes wrong in one that is special ends the script. -/
def runOwn (special : Bool) (name : String) (action : Action Unit) : Action Unit := do
  let command? := (← get).command?
  modify fun session => { session with command? := some name, printed := "" }
  let ending? ← caught action
  let session ← get
  flush name
  modify fun session => { session with command? }
  match ending? with
  | none => pure ()
  | some .fault =>
    if special then throw .fault else setStatus session.status
  | some ending => throw ending

def maxCalls : Nat := 1000

def runFunction (outside : Outside) (setting : Setting) (body : Command)
    (arguments : List String) : Action Unit := do
  let before := (← get).scope
  if maxCalls ≤ before.saved.length then
    fail ("Maximum function recursion depth (" ++ toString maxCalls ++ ") reached")
  modifyScope fun scope =>
    { scope with
      arguments, saved := [] :: scope.saved, loops := 0, optionIndex := 1, optionOffset? := none }
  let restored (scope : Scope) : Scope :=
    let reverted := (scope.saved.headD []).foldl (fun scope (name, old) => scope.revert name old)
      scope
    { reverted with
      arguments := before.arguments
      saved := before.saved
      loops := before.loops
      optionIndex := before.optionIndex
      optionOffset? := before.optionOffset? }
  let ending? ← caught (thereafter (fun after => { after with scope := restored after.scope })
    (outside.run body setting))
  match ending? with
  | none | some .returned => pure ()
  | some ending => throw ending

def runFile (outside : Outside) (paths? : Option String) (words : List String)
    (environment : List (String × String)) : Action Unit := do
  let name := words.headD ""
  if name.contains '/' then launch outside name words environment
  else
    let found ← match paths? with
      | some paths => do
        pure (searchIn (← get).system.files name (paths.splitOn ":"))
      | none => search name
    match found with
    | .ok path =>
      if name = "sleep" then runJobs outside
      launch outside path words environment
    | .error cause =>
      complain (name ++ ": " ++ (if cause = .denied then cause.reason else "not found"))
      setStatus 127

def become (outside : Outside) (words : List String) : Action Unit := do
  if words.isEmpty then pure ()
  else
    let status? ← caught do
      runFile outside none words (← get).scope.environment
    modifyScope ({ · with traps := [] })
    throw (status?.getD .exit)

def evaluate (outside : Outside) (setting : Setting) (arguments : List String) : Action Unit := do
  let session ← get
  let command := Script.read false (" ".intercalate arguments) 1
  if command.isIdle then setStatus 0
  else
    outside.run command setting
    modify fun after => { after with line := session.line, reached := session.reached }

def insert (outside : Outside) (setting : Setting) (arguments : List String) : Action Unit := do
  match arguments with
  | [] => pure ()
  | name :: _ =>
    let session ← get
    let paths := (session.scope.value? "PATH").getD ""
    let files := session.system.files
    let isFile (path : String) : Bool := match files.find (Raw.text path) with
      | .ok (_, .file ..) => true
      | _ => false
    let path ←
      if name.contains '/' then pure name
      else
        match ((paths.splitOn ":").map (· ++ "/" ++ name)).find? isFile with
        | some path => pure path
        | none => fail (name ++ ": not found")
    match session.system.openPath session.descriptors (Raw.text path) .read with
    | .error cause => fail (refusal .read path cause)
    | .ok (stream, system) =>
      let command := Script.read true (Raw.ofBytes (system.rest stream)) 1
      modify fun session => { session with command? := some path }
      let ending? ← caught (outside.run command setting)
      if command.isIdle then setStatus 0
      modify fun after =>
        { after with
          line := session.line, reached := session.reached, command? := session.command? }
      match ending? with
      | none | some .returned => pure ()
      | some ending => throw ending

/-- A command in front of whose name `command` stands: whether it is looked for in the standard
places, and the command itself. Options that ask for no more than a description remain. -/
def unwrapped : Nat → Bool → List String → Bool × List String
  | 0, standard, words => (standard, words)
  | fuel + 1, standard, words =>
    match words with
    | "command" :: "-p" :: rest => unwrapped fuel true ("command" :: rest)
    | "command" :: "--" :: name :: rest => unwrapped fuel standard (name :: rest)
    | "command" :: name :: rest =>
      if name.startsWith "-" then (standard, words) else unwrapped fuel standard (name :: rest)
    | _ => (standard, words)

def describeFirst (arguments : List String) : Action Unit := do
  let (options, names) ← options "vVp" "" arguments
  match names.head?, options.find? (·.1 ≠ 'p') with
  | some name, some (letter, _) =>
    setStatus (if ← describe name (letter = 'V') then 0 else 127)
  | _, _ => setStatus 0

/-- How a command is run: whether what goes wrong with it ends the script, and the action. -/
def resolve (outside : Outside) (setting : Setting) (words : List String) :
    Action (Bool × Action Unit) := do
  let (standard, bare) := unwrapped words.length false words
  let wrapped := bare.length < words.length
  let name := bare.headD ""
  let arguments := bare.drop 1
  let special := isSpecial name && !wrapped
  let own (action : Action Unit) : Action (Bool × Action Unit) :=
    pure (special, runOwn special name action)
  let scope := (← get).scope
  match (if isSpecial name || wrapped then none else scope.functions.lookup name) with
  | some body => pure (false, runFunction outside setting body arguments)
  | none =>
    match name with
    | "exec" => own (become outside arguments)
    | "eval" => own (evaluate outside setting arguments)
    | "." => own (insert outside setting arguments)
    | "command" => own (describeFirst arguments)
    | _ =>
      match builtin? outside name with
      | some action => own (action arguments)
      | none =>
        let paths? := if standard then some standardPath else none
        pure (false, do runFile outside paths? bare (← get).scope.environment)

/-- Assigns for as long as a command runs. -/
def assigning (assignments : List (String × String)) (action : Action Unit) : Action Unit := do
  let before := (← get).scope
  let reverted (scope : Scope) : Scope :=
    assignments.foldl (fun scope (name, _) => scope.revert name (before.binding name)) scope
  assignments.forM fun (name, value) => do
    assign name value
    modifyScope fun scope => scope.put name { scope.binding name with exported := true }
  thereafter (fun after => { after with scope := reverted after.scope }) action

def assignmentTexts (outside : Outside) (assignments : List (String × Word)) :
    Action (List (String × String)) :=
  assignments.mapM fun (name, word) => do pure (name, ← assignedText outside word)

def assignAll (outside : Outside) : List (String × Word) → Action (List (String × String))
  | [] => pure []
  | (name, word) :: rest => do
    let value ← assignedText outside word
    assign name value
    return (name, value) :: (← assignAll outside rest)

def invoke (outside : Outside) (setting : Setting) (parts : Simple) (words : List String) :
    Action Unit := do
  if words.isEmpty then
    if ← redirectAll outside parts.redirections then
      let assigned ← assignAll outside parts.assignments
      if !assigned.isEmpty then trace outside assigned []
      modify fun session => { session with status := session.captured }
  else
    let (special, action) ← resolve outside setting words
    if ← redirectAll outside parts.redirections then
      if special then
        let assigned ← assignAll outside parts.assignments
        if words.head? = some "exec" ∧ 1 < words.length then
          assigned.forM fun (name, _) =>
            modifyScope fun scope => scope.put name { scope.binding name with exported := true }
        trace outside assigned words
        setStatusBefore words
        action
      else
        let assignments ← assignmentTexts outside parts.assignments
        assigning assignments do
          trace outside assignments words
          setStatusBefore words
          action
    else if special then throw .fault
where
  /-- A command of the session succeeds unless it says otherwise. Some ask for the status that was
  before. -/
  setStatusBefore (words : List String) : Action Unit := do
    let (_, bare) := unwrapped words.length false words
    let name := bare.headD ""
    let keeps := ["exit", "return", "eval", ".", "trap"].contains name
      || ((← get).scope.functions.lookup name).isSome
    if keeps then pure () else setStatus 0

def simple (outside : Outside) (setting : Setting) (parts : Simple) : Action Unit := do
  if (← get).scope.has "noexec" then pure ()
  else
    modify fun session => { session with line := parts.line, captured := 0 }
    let words ← expandFrom outside [] parts.words
    let action := invoke outside setting parts words
    if words = ["exec"] then action else keepingDescriptors action
    actOnSignals outside
    check setting

/-! ### Loops -/

/-- What a round of a loop leads to: whether the loop ends. -/
def round (action : Action Bool) : Action Bool := fun session =>
  match action session with
  | .error (.leave loops again) after =>
    if 1 < loops then .error (.leave (loops - 1) again) after else .ok (!again) after
  | result => result

/-- Runs rounds as long as the condition holds and nothing ends the loop. The status is that of
the last round. -/
def rounds (condition : Action Bool) (body : Action Unit) : Nat → Nat → Action Unit
  | 0, last => setStatus last
  | fuel + 1, last => do
    let ended ← round do
      if ← condition then
        body
        pure false
      else
        setStatus last
        pure true
    if ended then pure () else rounds condition body fuel (← get).status

def looping (action : Action Unit) : Action Unit := do
  let loops := (← get).scope.loops
  modifyScope ({ · with loops := loops + 1 })
  thereafter (fun after => { after with scope := { after.scope with loops } }) action

def maxRounds : Nat := 1000000

/-- Runs an action for every text, as far as none ends the loop. -/
def forEach (action : String → Action Unit) : List String → Action Unit
  | [] => pure ()
  | text :: texts => do
    let ended ← round do
      action text
      pure false
    if ended then pure () else forEach action texts

/-! ### Commands -/

def eval (outside : Outside) : Command → Setting → Action Unit
  | .skip, _ => pure ()
  | .simple parts, setting => simple outside setting parts
  | .redirected line command redirections, setting => do
    modify fun session => { session with line }
    keepingDescriptors do
      if ← redirectAll outside redirections then eval outside command setting
      else check setting
  | .pipe first rest, setting => do
    let session ← get
    let (stream, system) := session.system.add (.pipe ByteArray.empty 0)
    set { session with system }
    let joined (number : Nat) (action : Action Unit) : Action Unit :=
      redirecting (session.descriptors.set number stream) (isolated outside action)
    joined 1 (eval outside first setting)
    joined 0 (eval outside rest setting)
    check setting
  | .background command, _ => addJob command
  | .both first second, setting => do
    eval outside first { setting with tested := true }
    if ← succeeded then eval outside second setting
  | .either first second, setting => do
    eval outside first { setting with tested := true }
    if ← succeeded then pure () else eval outside second setting
  | .negated command, setting => do
    eval outside command { setting with tested := true }
    setStatus (if ← succeeded then 1 else 0)
  | .sequence first second, setting => do
    eval outside first setting
    eval outside second setting
  | .subshell line command, setting => do
    modify fun session => { session with line }
    isolated outside (eval outside command setting)
    check setting
  | .branch condition yes no, setting => do
    eval outside condition { setting with tested := true }
    if ← succeeded then eval outside yes setting
    else
      match no with
      | .skip => setStatus 0
      | _ => eval outside no setting
  | .repeat inverted condition body, setting => do
    if (← get).scope.has "noexec" then pure ()
    else
      let holds : Action Bool := do
        eval outside condition { setting with tested := true }
        return (← succeeded) != inverted
      looping (rounds holds (eval outside body setting) maxRounds 0)
  | .select line subject arms, setting => do
    modify fun session => { session with line }
    let subject ← wholeText outside subject
    match arms with
    | .skip => setStatus 0
    | _ => eval outside arms { setting with subject }
  | .arm patterns body rest, setting => do
    let patterns ← patterns.mapM (patternOf outside)
    if patterns.any fun pattern => pattern.accepts setting.subject.toList then
      match body with
      | .skip => setStatus 0
      | _ => eval outside body setting
    else
      match rest with
      | .skip => setStatus 0
      | _ => eval outside rest setting
  | .each line name words body, setting => do
    modify fun session => { session with line }
    let found ← words.mapM (texts outside)
    match found.flatten with
    | [] => setStatus 0
    | found => looping <| forEach (fun text => do
        assign name text
        eval outside body setting) found
  | .define name body, _ => do
    modifyScope fun scope =>
      { scope with functions := (name, body) :: scope.functions.filter (·.1 ≠ name) }
    setStatus 0
  | .read text last command, setting => do
    modify fun session => { session with reached := last }
    if (← get).scope.has "verbose" then
      let _ ← write 2 text
    eval outside command setting
  | .malformed line fault, _ => do
    modify fun session => { session with line }
    fail fault.message

end TraceWeave.Shell.Session
