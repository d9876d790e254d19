import TraceWeave.Shell.Scope
import TraceWeave.Shell.Signal
import TraceWeave.Shell.Stream

/-! A session: what a running script can change. -/

namespace TraceWeave.Shell

inductive Exit where
  | status (number : Nat)
  | signal (number : Nat)
  deriving DecidableEq

def Exit.code : Exit → Nat
  | .status number => number
  | .signal number => 128 + number

/-- How a program is called: the path of its file, its name with the arguments, and what it
inherits. -/
structure Call where
  path : String
  words : List String
  environment : List (String × String)
  descriptors : Descriptors
  process : Nat

abbrev Launcher := Call → System → Except Cause (Exit × System)

/-- A command in the background, which runs when it is waited for. -/
structure Job where
  process : Nat
  scope : Scope
  descriptors : Descriptors
  workingDirectory : Place
  command : Command

structure Session where
  system : System
  descriptors : Descriptors
  scope : Scope
  status : Nat
  /-- The status of the last commands whose output was taken. -/
  captured : Nat
  line : Nat
  /-- The line where the reading of the script stopped so far. -/
  reached : Nat
  /-- The command that complaints begin with. -/
  command? : Option String
  /-- What the running command has printed so far. -/
  printed : String
  jobs : List Job
  /-- How the processes in the background ended that did. -/
  ended : List (Nat × Exit)
  /-- The signals that came and are still to be acted on. -/
  pending : List Nat
  /-- The number of the next process. -/
  nextProcess : Nat

/-- Why a script leaves what it is doing. -/
inductive Ending where
  | exit
  /-- A complaint that ends a script where no command stands in for it. -/
  | fault
  | killed (signal : Nat)
  /-- Leaves some loops, or all but the last of them and goes on with that. -/
  | leave (loops : Nat) (again : Bool)
  | returned
  deriving DecidableEq

abbrev Action := EStateM Ending Session

/-- What holds for a command but is not changed by it. -/
structure Setting where
  /-- Whether the script looks at the status itself, so that a failure does not end it. -/
  tested : Bool
  /-- The text that the arms of a selection are held against. -/
  subject : String

/-- What a script needs of others: starting a program, and running a command that is not a part of
the one that runs. -/
structure Outside where
  launch : Launcher
  run : Command → Setting → Action Unit

namespace Session

def setStatus (status : Nat) : Action Unit := modify fun session => { session with status }

def succeeded : Action Bool := do return (← get).status = 0

def modifyScope (change : Scope → Scope) : Action Unit :=
  modify fun session => { session with scope := change session.scope }

def modifyFiles (change : Files → Files) : Action Unit :=
  modify fun session =>
    { session with system := { session.system with files := change session.system.files } }

def write (descriptor : Nat) (text : String) : Action Bool := do
  let session ← get
  match session.descriptors.stream? descriptor with
  | none => pure false
  | some stream =>
    match session.system.write stream (Raw.bytes text) with
    | .ok system =>
      set { session with system }
      pure true
    | .error _ => pure false

def note (text : String) : Action Unit := do
  let _ ← write 2 (text ++ "\n")

def complain (text : String) : Action Unit := do
  let session ← get
  let command := (session.command?.map (· ++ ": ")).getD ""
  note (session.scope.title ++ ": " ++ toString session.line ++ ": " ++ command ++ text)

def fail {α : Type} (text : String) : Action α := do
  complain text
  setStatus 2
  throw .fault

def print (text : String) : Action Unit :=
  modify fun session => { session with printed := session.printed ++ text }

/-- Ends the script when the last command failed and nobody looks at that. -/
def check (setting : Setting) : Action Unit := do
  let session ← get
  if session.scope.has "errexit" ∧ ¬ setting.tested ∧ session.status ≠ 0 then throw .exit

/-! ### Variables -/

def requireName (name : String) : Action Unit := do
  if isName name.toList then pure () else fail (name ++ ": bad variable name")

def change (name : String) (change : Binding → Binding) : Action Unit := do
  requireName name
  let scope := (← get).scope
  let old := scope.binding name
  if old.fixed then fail (name ++ ": is read only")
  else
    let changed := change old
    let exported := changed.exported || scope.has "allexport"
    modifyScope (·.put name { changed with exported })

def assign (name value : String) : Action Unit := do
  change name ({ · with value? := some value })
  if name = "OPTIND" then
    let optionIndex := max 1 (value.toNat?.getD 1)
    modifyScope ({ · with optionIndex, optionOffset? := none })

def unset (name : String) : Action Unit := do
  if (← get).scope.binding name |>.fixed then fail (name ++ ": is read only")
  else modifyScope (·.forget name)

/-! ### Processes -/

def newProcess : Action Nat := do
  let session ← get
  set { session with nextProcess := session.nextProcess + 1 }
  pure session.nextProcess

def settle (exit : Exit) : Action Unit := do
  match exit with
  | .signal number => (Signal.obituary? number).forM note
  | .status _ => pure ()
  setStatus exit.code

/-- Starts a file. One that the system cannot start is read as a script. -/
def started (outside : Outside) (call : Call) (system : System) : Except Cause (Exit × System) :=
  match outside.launch call system with
  | .error .badFormat =>
    let words := "/bin/sh" :: call.path :: call.words.drop 1
    outside.launch { call with path := "/bin/sh", words } system
  | result => result

/-- Runs the file at a path, or says why not. -/
def launch (outside : Outside) (path : String) (words : List String)
    (environment : List (String × String)) : Action Unit := do
  let process ← newProcess
  let session ← get
  let call : Call := ⟨path, words, environment, session.descriptors, process⟩
  let name := words.headD path
  match started outside call session.system with
  | .ok (exit, system) =>
    let place := session.system.files.workingDirectory
    let files := { system.files with workingDirectory := place }
    set { session with system := { system with files } }
    settle exit
  | .error cause =>
    match cause with
    | .noEntry | .notDirectory =>
      complain (name ++ ": not found")
      setStatus 127
    | .tooManyLevels | .nameTooLong =>
      complain (name ++ ": " ++ cause.reason)
      setStatus 127
    | _ =>
      complain (name ++ ": " ++ cause.reason)
      setStatus 126

def redirecting {α : Type} (descriptors : Descriptors) (action : Action α) : Action α :=
  fun session =>
    match action { session with descriptors } with
    | .ok found after => .ok found { after with descriptors := session.descriptors }
    | .error ending after => .error ending { after with descriptors := session.descriptors }

end Session

end TraceWeave.Shell
