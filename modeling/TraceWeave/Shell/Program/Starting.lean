import TraceWeave.Shell.Builtin.Places
import TraceWeave.Shell.Program.Table

/-! Programs that start others.

A command is looked for in the directories that the environment names. A file that the system
cannot start is read as a script. -/

namespace TraceWeave.Shell.Program

abbrev Starter := List String → StateM Desk (Except Cause Exit)

/-- A program that starts others and ends as it says. -/
abbrev StartingProgram := Starter → List String → StateM Desk Exit

def starter (launch : Launcher) (process : Nat) : Starter := fun words => do
  let desk ← get
  let name := words.headD ""
  let call (path : String) (words : List String) : Call :=
    ⟨path, words, desk.environment, desk.descriptors, process⟩
  let found := if name.contains '/' then Except.ok name
    else if name.isEmpty then .error .noEntry
    else Session.searchIn desk.system.files name (searchPaths desk.environment)
  let started := found >>= fun path =>
    match launch (call path words) desk.system with
    | .error .badFormat => launch (call "/bin/sh" ("/bin/sh" :: path :: words.drop 1)) desk.system
    | result => result
  match started with
  | .ok (exit, system) =>
    let files :=
      { system.files with workingDirectory := desk.system.files.workingDirectory }
    set { desk with system := { system with files } }
    pure (.ok exit)
  | .error cause => pure (.error cause)

/-- The status of a program that cannot start what it is to start. -/
def unstartedStatus (cause : Cause) : Nat := if cause = .noEntry then 127 else 126

/-- Starts a command in the place of a program, or says why not. -/
def handOver (start : Starter) (words : List String) (said : String → String) :
    StateM Desk Exit := do
  match ← start words with
  | .ok exit => pure exit
  | .error cause =>
    Desk.complain (said (Desk.quoted (words.headD "")) ++ ": " ++ cause.reason)
    pure (.status (unstartedStatus cause))

/-- A program with options in front of the command that it starts. -/
def withStrictOptions (forms : List OptionForm) (given : List String)
    (run : Arguments → StateM Desk Exit) : StateM Desk Exit := do
  modify fun desk => { desk with trouble := 125 }
  match Arguments.read forms true given with
  | .ok arguments => run arguments
  | .error text =>
    Desk.misuse text
    pure (.status 125)

/-! ### Environments -/

/-- The words that a text is split into, or what is wrong with it. Quotes and backslashes keep
blanks, and braces behind a dollar sign hold the name of a variable. -/
def splitWords (environment : List (String × String)) : Nat → Option Char → Option (List Char) →
    List Char → Except String (List String)
  | 0, _, _, _ => .ok []
  | _, none, word?, [] => .ok (word?.map fun word => String.ofList word.reverse).toList
  | _, some _, _, [] => .error "no terminating quote in -S string"
  | fuel + 1, quote?, word?, c :: rest =>
    let add (found : List Char) (rest : List Char) :=
      splitWords environment fuel quote? (some (found.reverse ++ word?.getD [])) rest
    let finish (rest : List Char) := do
      let more ← splitWords environment fuel none none rest
      .ok ((word?.map fun word => String.ofList word.reverse).toList ++ more)
    let isBlank := c = ' ' || (9 ≤ c.toNat && c.toNat ≤ 13)
    match quote?, c with
    | some '\'', '\\' =>
      match rest with
      | d :: rest => if d = '\\' ∨ d = '\'' then add [d] rest else add ['\\', d] rest
      | [] => .error "no terminating quote in -S string"
    | some '\'', '\'' | some '"', '"' =>
      splitWords environment fuel none (some (word?.getD [])) rest
    | some '\'', _ => add [c] rest
    | none, '\'' | none, '"' => splitWords environment fuel (some c) (some (word?.getD [])) rest
    | _, '\\' =>
      match rest with
      | [] => .error "invalid backslash at end of string in -S"
      | 'c' :: _ =>
        if quote?.isSome then .error "'\\c' must not appear in double-quoted -S string"
        else finish []
      | '_' :: rest => if quote?.isSome then add [' '] rest else finish rest
      | d :: rest =>
        match Escape.letter? d with
        | some found =>
          if d = 'a' ∨ d = 'b' then
            .error ("invalid sequence '\\" ++ String.singleton d ++ "' in -S")
          else add [found] rest
        | none =>
          if "\"#$'".toList.contains d then add [d] rest
          else .error ("invalid sequence '\\" ++ String.singleton d ++ "' in -S")
    | _, '$' =>
      match rest with
      | '\x7b' :: rest =>
        let name := rest.takeWhile (· ≠ '\x7d')
        let value := (environment.lookup (String.ofList name)).getD ""
        if name.length < rest.length then add value.toList (rest.drop (name.length + 1))
        else .error ("only $\x7bVARNAME\x7d expansion is supported, error at: $"
          ++ String.ofList ('\x7b' :: rest))
      | rest =>
        .error ("only $\x7bVARNAME\x7d expansion is supported, error at: "
          ++ String.ofList ('$' :: rest))
    | _, _ =>
      if quote?.isNone && isBlank then finish rest
      else if quote?.isNone && word?.isNone && c = '#' then .ok []
      else add [c] rest

def setVariable (environment : List (String × String)) (name value : String) :
    List (String × String) :=
  if (environment.lookup name).isSome then
    environment.map fun (other, old) => if other = name then (other, value) else (other, old)
  else environment ++ [(name, value)]

def envForms : List OptionForm :=
  [flag 'i' "ignore-environment", flag '0' "null", needing 'u' "unset", needing 'C' "chdir",
    needing 'S' "split-string", flag 'v' "debug", ⟨none, "default-signal", .optional⟩,
    ⟨none, "ignore-signal", .optional⟩, ⟨none, "block-signal", .optional⟩]

/-- Arguments with one among the options in front that stands for several split up. -/
def unsplit (environment : List (String × String)) : Nat → List String →
    Except String (List String)
  | 0, arguments => .ok arguments
  | _, [] => .ok []
  | fuel + 1, argument :: rest =>
    let split (text : String) (rest : List String) : Except String (List String) := do
      let words ← splitWords environment (text.length + 1) none none text.toList
      unsplit environment fuel (words ++ rest)
    match argument.toList with
    | ['-', 'S'] =>
      match rest with
      | text :: rest => split text rest
      | [] => .ok [argument]
    | '-' :: 'S' :: text => split (String.ofList text) rest
    | '-' :: 'v' :: 'S' :: text =>
      if text.isEmpty then
        match rest with
        | text :: rest => split text rest
        | [] => .ok [argument]
      else split (String.ofList text) rest
    | ['-', 'u'] | ['-', 'C'] =>
      match rest with
      | value :: rest => (unsplit environment fuel rest).map fun rest => argument :: value :: rest
      | [] => .ok [argument]
    | '-' :: '-' :: text =>
      let mark := "split-string=".toList
      if mark.isPrefixOf text then split (String.ofList (text.drop mark.length)) rest
      else if text.isEmpty then .ok (argument :: rest)
      else (unsplit environment fuel rest).map (argument :: ·)
    | ['-'] => (unsplit environment fuel rest).map ("-i" :: ·)
    | '-' :: _ => (unsplit environment fuel rest).map (argument :: ·)
    | _ => .ok (argument :: rest)

def env : StartingProgram := fun start given => do
  let before := (← get).environment
  match unsplit before ((String.join given).length + given.length + 1) given with
  | .error text =>
    Desk.complain text
    pure (.status 125)
  | .ok given => withStrictOptions envForms given fun arguments => do
    let kept := if arguments.has "i" then [] else before
    let gone := (arguments.options.filter (·.1 = "u")).map Prod.snd
    let kept := kept.filter fun (name, _) => !gone.contains name
    let isAssignment (word : String) : Bool := word.contains '='
    let words := arguments.operands.dropWhile isAssignment
    let environment := (arguments.operands.takeWhile isAssignment).foldl (fun environment word =>
      let name := word.toList.takeWhile (· ≠ '=')
      setVariable environment (String.ofList name)
        (String.ofList (word.toList.drop (name.length + 1)))) kept
    modify fun desk => { desk with environment }
    match words with
    | [] =>
      let ending := if arguments.has "0" then "\x00" else "\n"
      environment.forM fun (name, value) => Desk.print (name ++ "=" ++ value ++ ending)
      return .status (← get).status
    | name :: _ =>
      let directory? := arguments.value? "C"
      let place? ← directory?.mapM Desk.find
      match directory?, place? with
      | some directory, some (.error cause) =>
        Desk.complain ("cannot change directory to " ++ Desk.quoted directory ++ ": "
          ++ cause.reason)
        pure (.status 125)
      | _, place? =>
        match place? with
        | some (.ok (place, _)) => modify fun desk =>
          let files := { desk.system.files with workingDirectory := place }
          { desk with system := { desk.system with files } }
        | _ => pure ()
        let exit ← handOver start words fun quoted => quoted
        if exit = .status 127 ∧ name.any fun c => c = ' ' ∨ c = '\t' then
          Desk.complain "use -[v]S to pass options in shebang lines"
        pure exit

/-! ### Wrappers -/

def wrapper (forms : List OptionForm) (said : String → String) : StartingProgram :=
  fun start given => withStrictOptions forms given fun arguments => do
    if arguments.operands.isEmpty then
      Desk.misuse "missing operand"
      pure (.status 125)
    else handOver start arguments.operands said

def failingToRun (quoted : String) : String := "failed to run command " ++ quoted

def timeout : StartingProgram := fun start given =>
  withStrictOptions
    [needing 's' "signal", needing 'k' "kill-after", ⟨none, "preserve-status", .none⟩,
      ⟨none, "foreground", .none⟩, flag 'v' "verbose"] given fun arguments => do
    match arguments.operands with
    | [] | [_] =>
      let name := (← get).name
      Desk.note ("Try '" ++ name ++ " --help' for more information.")
      pure (.status 125)
    | interval :: words =>
      if isInterval interval then
        let exit ← handOver start words failingToRun
        pure (.status exit.code)
      else
        Desk.misuse ("invalid time interval " ++ Desk.quoted interval)
        pure (.status 125)

/-! ### Arguments from the input -/

/-- The words in a text, which may be quoted, or the sign of a quote that has no end. -/
def inputWords : Nat → Option Char → Option (List Char) → List Char → Except Char (List String)
  | 0, _, _, _ => .ok []
  | _, some quote, _, [] => .error quote
  | _, none, word?, [] => .ok (word?.map fun word => String.ofList word.reverse).toList
  | fuel + 1, quote?, word?, c :: rest =>
    let add (c : Char) (rest : List Char) :=
      inputWords fuel quote? (some (c :: word?.getD [])) rest
    match quote? with
    | some quote =>
      if c = quote then inputWords fuel none (some (word?.getD [])) rest
      else if c = '\n' then .error quote
      else add c rest
    | none =>
      if c = '\'' ∨ c = '"' then inputWords fuel (some c) (some (word?.getD [])) rest
      else if c = '\\' then
        match rest with
        | d :: rest => add d rest
        | [] => inputWords fuel none word? []
      else if c = ' ' ∨ c = '\t' ∨ c = '\n' then do
        let more ← inputWords fuel none none rest
        .ok ((word?.map fun word => String.ofList word.reverse).toList ++ more)
      else add c rest

/-- The one word that a line without the blanks in front of it is. -/
def lineWord? (line : String) : Except Char (Option String) := do
  let isBlank (c : Char) : Bool := c = ' ' || c = '\t'
  let kept := (line.toList.dropWhile isBlank).flatMap fun c =>
    if isBlank c then ['\\', c] else [c]
  let words ← inputWords (kept.length + 1) none none kept
  .ok words.head?

/-- The character that parts what is read, where that is not left to blanks. -/
def delimiter? (arguments : Arguments) : Option Char :=
  if arguments.has "0" then some '\x00'
  else
    (arguments.value? "d").bind fun text =>
      match text.toList with
      | '\\' :: rest => some (Escape.char rest).1
      | rest => rest.head?

def inputItems (arguments : Arguments) (text : String) : Except Char (List String) :=
  match delimiter? arguments with
  | some delimiter =>
    .ok ((linesOf delimiter text.toList).map fun line => String.ofList (bare delimiter line))
  | none =>
    if arguments.has "I" then
      ((bareLines text).mapM lineWord?).map fun words => words.filterMap fun word? => word?
    else inputWords (text.length + 1) none none text.toList

/-- Lists of so many words each, the last one perhaps with fewer. -/
def chunks (size : Nat) : Nat → List String → List (List String)
  | 0, _ | _, [] => []
  | fuel + 1, words => words.take size :: chunks size fuel (words.drop size)

/-- Runs commands one after the other as long as the status allows it. -/
def startEach (start : Starter) (status : Nat) : List (List String) → StateM Desk Exit
  | [] => pure (.status status)
  | words :: more => do
    match ← start words with
    | .error cause =>
      Desk.complain (words.headD "" ++ ": " ++ cause.reason)
      pure (.status (unstartedStatus cause))
    | .ok (.signal signal) =>
      Desk.complain (words.headD "" ++ ": terminated by signal " ++ toString signal)
      pure (.status 125)
    | .ok (.status 255) =>
      Desk.complain (words.headD "" ++ ": exited with status 255; aborting")
      pure (.status 124)
    | .ok (.status 0) => startEach start status more
    | .ok (.status _) => startEach start 123 more

def xargs : StartingProgram := fun start given => do
  let forms := [flag '0' "null", needing 'n' "max-args", needing 'L' "max-lines", needing 'I' "",
    needing 'd' "delimiter", flag 'r' "no-run-if-empty", flag 't' "verbose",
    needing 'P' "max-procs", needing 's' "max-chars", needing 'E' "", needing 'a' "arg-file",
    flag 'x' "exit", flag 'p' ""]
  match Arguments.read forms true given with
  | .error text =>
    Desk.misuse text
    pure (.status 1)
  | .ok arguments =>
    let command := if arguments.operands.isEmpty then ["echo"] else arguments.operands
    match ← Desk.takeInput with
    | .error _ => pure (.status 1)
    | .ok text =>
      let desk ← get
      let (stream, system) := desk.system.add (.device .null)
      set { desk with system, descriptors := desk.descriptors.set 0 stream }
      match inputItems arguments text with
      | .error quote =>
        let kind := if quote = '"' then "double" else "single"
        Desk.complain ("unmatched " ++ kind ++ " quote; by default quotes are special to xargs "
          ++ "unless you use the -0 option")
        pure (.status 1)
      | .ok words =>
        let size := ((arguments.value? "n").orElse fun () => arguments.value? "L").bind
          String.toNat?
        let lists := match arguments.value? "I" with
          | some mark => words.map fun word => command.map fun part => part.replace mark word
          | none =>
            let lists := match size with
              | some size => chunks (max size 1) words.length words
              | none => [words]
            if words.isEmpty then (if arguments.has "r" then [] else [command])
            else lists.map (command ++ ·)
        if arguments.has "t" then lists.forM fun words => Desk.note (" ".intercalate words)
        startEach start 0 lists

def startingTable : List (String × StartingProgram) :=
  [("env", env), ("ionice", wrapper (valued "cn") failingToRun),
    ("nice", wrapper [needing 'n' "adjustment"] fun quoted => quoted),
    ("nohup", wrapper [] failingToRun), ("setsid", wrapper (flags "cfw") failingToRun),
    ("stdbuf", wrapper (valued "ioe") failingToRun), ("timeout", timeout), ("xargs", xargs)]

def startStarting (program : String) (run : StartingProgram) (launch : Launcher) (call : Call)
    (system : System) : Exit × System :=
  let action : StateM Desk Exit := do
    let exit ← run (starter launch call.process) (call.words.drop 1)
    if (← get).unwritten?.isSome then
      finishing program (pure ())
      return .status (← get).status
    else pure exit
  let (exit, desk) := action (deskOf program call system)
  (exit, desk.system)

end TraceWeave.Shell.Program
