import TraceWeave.Shell.Program.Starting
import TraceWeave.Shell.Run
import TraceWeave.Shell.Shebang

/-! Starting executables: scripts, the interpreters that they ask for, and the programs that come
with the system. These lie in its two directories of commands, where a name without a slash is
looked for. -/

namespace TraceWeave

def Shell.interpreters : List String := ["sh", "dash", "bash"]

/-- The directories of the system, with its devices and programs, and an empty directory to work
in. -/
def Files.system : Files :=
  let programs := Shell.interpreters ++ Shell.Program.table.map Prod.fst
    ++ Shell.Program.startingTable.map Prod.fst
  let directories : List Place :=
    [["bin"], ["dev"], ["dev", "fd"], ["root"], ["tmp"], ["usr"], ["usr", "bin"], ["tmp", "work"]]
  let devices : List (Place × Device) :=
    [(["dev", "null"], .null), (["dev", "zero"], .zero), (["dev", "full"], .full),
      (["dev", "stdin"], .input), (["dev", "stdout"], .output), (["dev", "stderr"], .errors),
      (["dev", "fd", "0"], .input), (["dev", "fd", "1"], .output), (["dev", "fd", "2"], .errors)]
  let entries : List (Place × Entry) :=
    directories.map (fun place => (place, Entry.directory))
    ++ devices.map (fun (place, device) => (place, Entry.device device))
    ++ programs.flatMap fun name =>
      [(["bin", name], .program name), (["usr", "bin", name], .program name)]
  ⟨Std.ExtTreeMap.ofList entries, ["tmp", "work"]⟩

namespace Shell

/-! ### The interpreter -/

structure ScriptCall where
  text : String
  /-- Whether the text comes from a file, so that it can be shown line by line. -/
  shown : Bool
  title : String
  arguments : List String

/-- The options of an interpreter by its first arguments: which are on or off, whether the script
is an argument or the input, and the other arguments. -/
structure Beginning where
  options : List (String × Bool)
  asText : Bool
  asInput : Bool
  rest : List String

namespace Beginning

def set (beginning : Beginning) (option : String) (on : Bool) : Beginning :=
  { beginning with options := beginning.options ++ [(option, on)] }

def letters (on : Bool) : Beginning → List Char → Except String Beginning
  | beginning, [] => .ok beginning
  | beginning, letter :: more =>
    if letter = 'c' then letters on { beginning with asText := true } more
    else if letter = 'l' then letters on beginning more
    else if letter = 'o' then
      match beginning.rest with
      | name :: rest =>
        if (optionTable.any fun row => row.1 = name) then
          letters on ({ beginning with rest }.set name on) more
        else .error ("Illegal option -o " ++ name)
      | [] => letters on beginning more
    else
      match optionOfLetter? letter with
      | some option => letters on (beginning.set option on) more
      | none => .error ("Illegal option -" ++ String.singleton letter)

def readFrom : Nat → Beginning → Except String Beginning
  | 0, beginning => .ok beginning
  | fuel + 1, beginning =>
    match beginning.rest with
    | [] => .ok beginning
    | argument :: rest =>
      let onward (on : Bool) (text : List Char) : Except String Beginning := do
        readFrom fuel (← letters on { beginning with rest } text)
      match argument.toList with
      | ['-'] | ['-', '-'] => .ok { beginning with rest }
      | '-' :: text => onward true text
      | '+' :: text => onward false text
      | _ => .ok beginning

def read (arguments : List String) : Except String Beginning :=
  readFrom (arguments.length + 1) ⟨[], false, false, arguments⟩

end Beginning

def isImported (name : String) : Bool := isName name.toList

def initialScope (call : Call) (workingDirectory : Place) (options : List (String × Bool))
    (script : ScriptCall) : Scope :=
  let own (value : String) : Binding := ⟨some value, false, false⟩
  let path := "/" ++ "/".intercalate (workingDirectory.map Raw.ofText)
  let given := (call.environment.filter fun (name, _) => isImported name).map
    fun (name, value) => (name, (⟨some value, true, false⟩ : Binding))
  let bindings := [("IFS", own " \t\n"), ("OPTIND", own "1"), ("PPID", own "1"),
    ("PS1", own "# "), ("PS2", own "> "), ("PS4", own "+ ")]
  let scope : Scope := {
    title := script.title
    arguments := script.arguments
    bindings := []
    functions := []
    options := []
    traps := []
    saved := []
    loops := 0
    mask := 18
    aliases := []
    process := call.process
    background? := none
    optionIndex := 1
    optionOffset? := none }
  let scope := (bindings ++ given).foldl (fun scope (name, binding) => scope.put name binding) scope
  let scope := scope.put "IFS" (own " \t\n")
  let scope := scope.put "PWD" ⟨some path, true, false⟩
  let scope := if (scope.value? "PATH").isNone then scope.put "PATH" (own Session.standardPath)
    else scope
  options.foldl (fun scope (option, on) => scope.setOption option on) scope

/-- Runs a script to its end, and what it left in the background. -/
def runSource (outside : Outside) (call : Call) (options : List (String × Bool))
    (script : ScriptCall) (system : System) : Exit × System :=
  let session : Session := {
    system
    descriptors := call.descriptors
    scope := initialScope call system.files.workingDirectory options script
    status := 0
    captured := 0
    line := 1
    reached := 1
    command? := none
    printed := ""
    jobs := []
    ended := []
    pending := []
    nextProcess := call.process + 1 }
  let command := Script.read script.shown script.text 1
  let (exit, after) : Exit × Session :=
    match Session.toEnd outside (outside.run command ⟨false, ""⟩) session with
    | .error (.killed signal) after => (.signal signal, after)
    | .ok _ after | .error _ after => (.status (after.status % 256), after)
  match Session.runJobs outside after with
  | .ok _ last | .error _ last => (exit, last.system)

def refused (call : Call) (text : String) (system : System) : Exit × System :=
  let said := call.words.headD "sh" ++ ": 0: " ++ text ++ "\n"
  let written := match call.descriptors.stream? 2 with
    | some stream => ((system.write stream (Raw.bytes said)).toOption).getD system
    | none => system
  (.status 2, written)

def interpret (outside : Outside) (call : Call) (system : System) : Exit × System :=
  let name := call.words.headD "sh"
  match Beginning.read (call.words.drop 1) with
  | .error text => refused call text system
  | .ok beginning =>
    let run := runSource outside call beginning.options
    if beginning.asText then
      match beginning.rest with
      | [] => refused call "-c requires an argument" system
      | text :: rest => run ⟨text, false, rest.headD name, rest.drop 1⟩ system
    else
      match beginning.rest, beginning.options.lookup "stdin" with
      | path :: rest, none =>
        match system.openPath call.descriptors (Raw.text path) .read with
        | .ok (stream, system) =>
          let text := Raw.ofBytes (system.rest stream)
          run ⟨text, true, path, rest⟩ (system.advance stream text.length)
        | .error cause =>
          let why := if cause = .noEntry ∨ cause = .notDirectory then "No such file"
            else cause.reason
          refused call ("cannot open " ++ path ++ ": " ++ why) system
      | rest, _ =>
        match call.descriptors.stream? 0 with
        | some stream =>
          let text := Raw.ofBytes (system.rest stream)
          run ⟨text, true, name, rest⟩ (system.advance stream text.length)
        | none => (.status 0, system)

/-! ### Files -/

/-- How many interpreters may be asked for one after the other. -/
def maxInterpreters : Nat := 5

/-- Runs the file at a path, and what it starts itself by means of `inner`. -/
def startFile (inner : Outside) : Nat → Launcher
  | 0, _, _ => .error .tooManyLevels
  | fuel + 1, call, system => do
    if call.path.isEmpty then .error .denied
    match ← system.files.find (Raw.text call.path) with
    | (_, .directory) | (_, .device _) => .error .denied
    | (_, .program name) =>
      if interpreters.contains name then .ok (interpret inner call system)
      else
        match Program.table.lookup name, Program.startingTable.lookup name with
        | some run, _ => .ok (Program.start name run call system)
        | _, some run => .ok (Program.startStarting name run inner.launch call system)
        | none, none => .error .noEntry
    | (_, .file content executable) =>
      if !executable then .error .denied
      else
        match Shebang.read? content with
        | none => .error .badFormat
        | some shebang =>
          let words := [shebang.interpreter] ++ shebang.argument?.toList ++ call.path
            :: call.words.drop 1
          startFile inner fuel { call with path := shebang.interpreter, words } system

def outside : Nat → Outside
  | 0 => ⟨fun _ _ => .error .tooManyLevels, fun _ _ => throw .exit⟩
  | depth + 1 =>
    let inner := outside depth
    ⟨startFile inner (maxInterpreters + 1), Session.eval inner⟩

/-- How many levels of scripts and functions are followed. -/
def levels : Nat := 1100

/-! ### Commands -/

/-- What came of a command: what it left behind and printed, and its status if no signal ended
it. -/
structure Outcome where
  files : Files
  output : ByteArray
  errors : ByteArray
  status? : Option Nat

def pathOf (files : Files) (name : String) : Except Cause String :=
  if name.contains '/' then .ok (Raw.ofText name)
  else if name.isEmpty then .error .noEntry
  else if Address.maxName < name.utf8ByteSize then .error .nameTooLong
  else Session.searchIn files (Raw.ofText name) (Session.standardPath.splitOn ":")

/-- The environment of a command that nobody says anything else about. -/
def standardEnvironment : List (String × String) :=
  [("HOME", "/root"), ("PATH", Session.standardPath)]

/-- Runs a command with an empty input. -/
def start (command : String) (arguments : List String) (environment : List (String × String))
    (files : Files) : Except Cause Outcome := do
  if (command :: arguments).any (·.contains '\x00') then .error .nulInCommand
  else
    let path ← pathOf files command
    let system : System :=
      ⟨files, #[.device .null, .pipe ByteArray.empty 0, .pipe ByteArray.empty 0]⟩
    let call : Call := {
      path
      words := (command :: arguments).map Raw.ofText
      environment
      descriptors := [(0, 0), (1, 1), (2, 2)]
      process := 1000 }
    let (exit, after) ← (outside levels).launch call system
    .ok {
      files := { after.files with workingDirectory := files.workingDirectory }
      output := after.rest 1
      errors := after.rest 2
      status? := match exit with
        | .status number => some number
        | .signal _ => none }

end Shell

end TraceWeave
