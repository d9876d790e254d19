import TraceWeave.Shell.Builtin.Options
import TraceWeave.Shell.Script

/-! The session's own commands that are about directories and about where commands are found. -/

namespace TraceWeave.Shell.Session

/-! ### Directories -/

def workingPath : Action String := do
  let names := (← get).system.files.workingDirectory.map Raw.ofText
  pure ("/" ++ "/".intercalate names)

/-- Whether a path begins with a dot or two as a name. -/
def isDotted (path : String) : Bool :=
  match path.toList with
  | ['.'] | '.' :: '/' :: _ | ['.', '.'] | '.' :: '.' :: '/' :: _ => true
  | _ => false

/-- Works in the directory at a path from now on, if there is one. -/
def enter (path : String) : Action Bool := do
  match (← get).system.files.find (Raw.text path) with
  | .ok (place, .directory) =>
    let old ← workingPath
    modifyFiles fun files => { files with workingDirectory := place }
    let new ← workingPath
    change "OLDPWD" fun binding => { binding with value? := some old, exported := true }
    change "PWD" fun binding => { binding with value? := some new, exported := true }
    pure true
  | _ => pure false

def enterFrom (target : String) : List String → Action Bool
  | [] => pure false
  | directory :: directories => do
    let path := if directory.isEmpty then target else directory ++ "/" ++ target
    if ← enter path then
      if !directory.isEmpty then print ((← workingPath) ++ "\n")
      pure true
    else enterFrom target directories

def changeDirectory (arguments : List String) : Action Unit := do
  let (_, rest) ← options "LP" "" arguments
  let scope := (← get).scope
  let given := match rest with
    | [] => (scope.value? "HOME").getD ""
    | ["-"] => (scope.value? "OLDPWD").getD ""
    | target :: _ => target
  let target := if given.isEmpty then "." else given
  let directories :=
    if target.startsWith "/" || isDotted target then [""]
    else ((scope.value? "CDPATH").map (·.splitOn ":")).getD [] ++ [""]
  if ← enterFrom target directories then
    if rest = ["-"] then print ((← workingPath) ++ "\n")
  else fail ("can't cd to " ++ given)

def printDirectory (arguments : List String) : Action Unit := do
  let _ ← options "LP" "" arguments
  print ((← workingPath) ++ "\n")

/-! ### Commands -/

/-- The file that a name means, by the directories where commands are looked for, or why it cannot
be run. -/
def searchIn (files : Files) (name : String) : List String → Except Cause String
  | [] => .error .noEntry
  | directory :: directories =>
    let path := if directory.isEmpty then name else directory ++ "/" ++ name
    match files.find (Raw.text path) with
    | .ok (_, .program _) | .ok (_, .file _ true) => .ok path
    | .ok (_, .file _ false) =>
      match searchIn files name directories with
      | .ok path => .ok path
      | .error _ => .error .denied
    | _ => searchIn files name directories

def standardPath : String := "/usr/local/sbin:/usr/local/bin:/usr/sbin:/usr/bin:/sbin:/bin"

def search (name : String) : Action (Except Cause String) := do
  let session ← get
  match session.scope.value? "PATH" with
  | some path => pure (searchIn session.system.files name (path.splitOn ":"))
  | none => pure (.error .noEntry)

/-- Names of the session's own commands that no function can replace. -/
def isSpecial (name : String) : Bool := Script.reservedNames.contains name

def ordinaryNames : List String :=
  ["[", "alias", "bg", "cd", "chdir", "command", "echo", "false", "fg", "getopts", "hash", "jobs",
    "kill", "local", "printf", "pwd", "read", "test", "true", "type", "ulimit", "umask",
    "unalias", "wait"]

def describe (name : String) (atLength : Bool) : Action Bool := do
  let scope := (← get).scope
  let say (short long : String) : Action Bool := do
    print ((if atLength then name ++ " is " ++ long else short) ++ "\n")
    pure true
  if Script.keywords.contains name then say name "a shell keyword"
  else if isSpecial name then say name "a special shell builtin"
  else if (scope.functions.lookup name).isSome then say name "a shell function"
  else if ordinaryNames.contains name then say name "a shell builtin"
  else
    let found ← do
      if name.contains '/' then
        pure ((← get).system.files.find (Raw.text name)).isOk
      else pure false
    if found then say name name
    else
      match ← search name with
      | .ok path => say path path
      | .error _ =>
        if atLength then print (name ++ ": not found\n")
        pure false

def describeAll (arguments : List String) : Action Unit := do
  setStatus 0
  arguments.forM fun name => do
    if ← describe name true then pure () else setStatus 127

/-- Looks commands up, so that one that is missing shows. -/
def remember (arguments : List String) : Action Unit := do
  let (_, names) ← options "rv" "" arguments
  setStatus 0
  names.forM fun name => do
    if isSpecial name || ordinaryNames.contains name || name.contains '/' then pure ()
    else
      match ← search name with
      | .ok _ => pure ()
      | .error _ =>
        complain (name ++ ": not found")
        setStatus 1

end TraceWeave.Shell.Session
