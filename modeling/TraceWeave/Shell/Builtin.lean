import TraceWeave.Shell.Builtin.Places
import TraceWeave.Shell.Builtin.Processes
import TraceWeave.Shell.Builtin.Variables
import TraceWeave.Shell.Expansion
import TraceWeave.Shell.Format
import TraceWeave.Shell.Test

/-! The session's own commands that run no others. -/

namespace TraceWeave.Shell.Session

/-! ### Printing and testing -/

/-- Texts with blanks between them, up to an escape that ends all output. -/
def echoed : List String → List Char × Bool
  | [] => ([], false)
  | [word] => Escape.read word.toList
  | word :: words =>
    let (text, stopped) := Escape.read word.toList
    if stopped then (text, true)
    else
      let (more, stopped) := echoed words
      (text ++ ' ' :: more, stopped)

def echo (arguments : List String) : Action Unit := do
  let quiet := arguments.head? = some "-n"
  let (text, stopped) := echoed (if quiet then arguments.drop 1 else arguments)
  print (String.ofList text ++ (if quiet || stopped then "" else "\n"))

def printf (arguments : List String) : Action Unit := do
  let (_, rest) ← options "" "" arguments
  match rest with
  | [] => fail "usage: printf format [arg ...]"
  | format :: arguments =>
    let page := Format.Page.ofFormat format arguments
    page.complaints.forM complain
    print page.text
    match page.invalid? with
    | some directive => fail (directive ++ ": invalid directive")
    | none => setStatus (if page.complaints.isEmpty then 0 else 1)

def test (name : String) (arguments : List String) : Action Unit := do
  if name = "[" ∧ arguments.getLast? ≠ some "]" then fail "missing ]"
  let session ← get
  let arguments := if name = "[" then arguments.dropLast else arguments
  match Test.value ⟨session.system.files, session.descriptors⟩ arguments with
  | .ok holds => setStatus (if holds then 0 else 1)
  | .error complaint => fail complaint

/-! ### Leaving -/

def exit (arguments : List String) : Action Unit := do
  match arguments with
  | [] => pure ()
  | text :: _ => setStatus ((← number text) % 256)
  throw .exit

def returning (arguments : List String) : Action Unit := do
  match arguments with
  | [] => pure ()
  | text :: _ => setStatus (← number text)
  throw .returned

def leave (again : Bool) (arguments : List String) : Action Unit := do
  let count ← match arguments with
    | [] => pure 1
    | text :: _ =>
      let count ← number text
      if count = 0 then fail ("Illegal number: " ++ text) else pure count
  let loops := (← get).scope.loops
  setStatus 0
  if loops = 0 then pure () else throw (.leave (min count loops) again)

/-! ### The rest -/

def permissions (mask : Nat) : String :=
  (if mask / 4 % 2 = 0 then "r" else "") ++ (if mask / 2 % 2 = 0 then "w" else "")
    ++ (if mask % 2 = 0 then "x" else "")

def setMask (arguments : List String) : Action Unit := do
  let (options, rest) ← options "S" "" arguments
  let mask := (← get).scope.mask
  match rest with
  | [] =>
    if options.isEmpty then
      let digits := Nat.toDigits 8 mask
      print (String.ofList (List.replicate (4 - digits.length) '0' ++ digits) ++ "\n")
    else
      print ("u=" ++ permissions (mask / 64) ++ ",g=" ++ permissions (mask / 8) ++ ",o="
        ++ permissions mask ++ "\n")
  | text :: _ =>
    if text.all Escape.isOctal then
      let mask := text.foldl (fun n c => 8 * n + (c.toNat - '0'.toNat)) 0
      modifyScope ({ · with mask := mask % 512 })
    else if text.all Char.isDigit then fail ("Illegal number: " ++ text)
    else if text.any fun c => c = '=' ∨ c = '+' ∨ c = '-' then pure ()
    else fail ("Illegal mode: " ++ text)

def defineAliases (arguments : List String) : Action Unit := do
  let shown (name value : String) : String := name ++ "=" ++ quoted value ++ "\n"
  if arguments.isEmpty then
    (← get).scope.aliases.reverse.forM fun (name, value) => print (shown name value)
  else
    arguments.forM fun argument => do
      let (name, value?) := assignmentIn argument
      let scope := (← get).scope
      match value? with
      | some value =>
        let others := scope.aliases.filter (·.1 ≠ name)
        modifyScope ({ · with aliases := (name, value) :: others })
      | none =>
        match scope.aliases.lookup name with
        | some value => print (shown name value)
        | none =>
          note ("alias: " ++ name ++ " not found")
          setStatus 1

def removeAliases (arguments : List String) : Action Unit := do
  let (options, names) ← options "a" "" arguments
  if !options.isEmpty then modifyScope ({ · with aliases := [] })
  names.forM fun name => do
    let scope := (← get).scope
    if (scope.aliases.lookup name).isNone then
      note ("unalias: " ++ name ++ " not found")
      setStatus 1
    else modifyScope ({ · with aliases := scope.aliases.filter (·.1 ≠ name) })

def builtin? (outside : Outside) (name : String) : Option (List String → Action Unit) :=
  match name with
  | ":" | "true" => some fun _ => pure ()
  | "false" => some fun _ => setStatus 1
  | "[" | "test" => some (test name)
  | "alias" => some defineAliases
  | "bg" | "fg" => some fun arguments => fail (match arguments with
    | [] => "No current job"
    | job :: _ => "No such job: " ++ job)
  | "break" => some (leave false)
  | "cd" | "chdir" => some changeDirectory
  | "continue" => some (leave true)
  | "echo" => some echo
  | "exit" => some exit
  | "export" => some exportNames
  | "getopts" => some getopts
  | "hash" => some remember
  | "jobs" => some fun _ => pure ()
  | "kill" => some kill
  | "local" => some localNames
  | "printf" => some printf
  | "pwd" => some printDirectory
  | "read" => some read
  | "readonly" => some fixNames
  | "return" => some returning
  | "set" => some setAnew
  | "shift" => some shift
  | "times" => some fun _ =>
    let line := "0m0.000000s 0m0.000000s\n"
    print (line ++ line)
  | "trap" => some trap
  | "type" => some describeAll
  | "ulimit" => some fun arguments => if arguments.length < 2 then print "unlimited\n" else pure ()
  | "umask" => some setMask
  | "unalias" => some removeAliases
  | "unset" => some unsetNames
  | "wait" => some (wait outside)
  | _ => none

end TraceWeave.Shell.Session
