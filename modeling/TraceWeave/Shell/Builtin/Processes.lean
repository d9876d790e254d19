import TraceWeave.Shell.Builtin.Options
import TraceWeave.Shell.Subshell

/-! The session's own commands that are about processes and signals. -/

namespace TraceWeave.Shell.Session

def killUsage : String :=
  "Usage: kill [-s sigspec | -signum | -sigspec] [pid | job]... or\nkill -l [exitstatus]"

/-- The signal, the processes and whether signals are to be listed, by the arguments of `kill`. -/
def killArguments (arguments : List String) : Action (Option Nat × List String × Bool) := do
  match arguments with
  | [] => fail killUsage
  | argument :: rest =>
    match argument.toList with
    | '-' :: given =>
      match Signal.ofText? (String.ofList given) with
      | some signal => pure (some signal, rest, false)
      | none =>
        let (options, rest) ← options "l" "s" arguments
        let signal? ← match options.lookup 's' with
          | some text =>
            match Signal.ofText? text with
            | some signal => pure (some signal)
            | none => fail ("invalid signal number or name: " ++ text)
          | none => pure none
        pure (signal?, rest, options.any (·.1 = 'l'))
    | _ => pure (none, arguments, false)

def receive (signal : Nat) : Action Unit := do
  match (← get).scope.traps.lookup signal with
  | some text =>
    if text.isEmpty ∨ signal = 9 then pure ()
    else modify fun session => { session with pending := session.pending ++ [signal] }
  | none => pure ()
  let trapped := ((← get).scope.traps.lookup signal).isSome ∧ signal ≠ 9
  if Signal.harmless.contains signal ∨ trapped then pure () else throw (.killed signal)

/-- A signal to a process. Only the script itself and what it runs in the background exist. -/
def signalTo (signal : Nat) (target : String) : Action Unit := do
  if target.startsWith "%" then fail ("No such job: " ++ target)
  let process ← number (if target.startsWith "-" then (target.drop 1).toString else target)
  let session ← get
  if process = session.scope.process ∨ process = 0 then receive signal
  else if session.jobs.any (·.process = process) then
    if !Signal.harmless.contains signal then
      set { session with
        jobs := session.jobs.filter (·.process ≠ process)
        ended := (process, .signal signal) :: session.ended }
  else
    complain "No such process\n"
    setStatus 1

def kill (arguments : List String) : Action Unit := do
  let (signal?, rest, listing) ← killArguments arguments
  setStatus 0
  if listing then
    match rest with
    | [] => print ("0\n" ++ String.join (Signal.names.map (· ++ "\n")))
    | text :: _ =>
      let given ← number text
      let signal := if 128 < given then given - 128 else given
      if 0 < signal ∧ signal < 65 then print (Signal.name signal ++ "\n")
      else fail ("invalid signal number or exit status: " ++ text)
  else if rest.isEmpty then fail killUsage
  else rest.forM (signalTo (signal?.getD 15))

/-! ### Traps -/

def trap (arguments : List String) : Action Unit := do
  let (_, rest) ← options "" "" arguments
  setStatus 0
  match rest with
  | [] =>
    let traps := (← get).scope.traps.mergeSort fun a b => a.1 ≤ b.1
    traps.forM fun (signal, text) =>
      print ("trap -- " ++ quoted text ++ " " ++ Signal.name signal ++ "\n")
  | first :: more =>
    let resets := more.isEmpty || first = "-"
    (if more.isEmpty then [first] else more).forM fun text => do
      match Signal.ofText? text with
      | some signal =>
        modifyScope fun scope =>
          let others := scope.traps.filter (·.1 ≠ signal)
          { scope with traps := if resets then others else (signal, first) :: others }
      | none =>
        note ("trap: " ++ text ++ ": bad trap")
        setStatus 1

def actOnSignals (outside : Outside) : Action Unit := do
  let session ← get
  if !session.pending.isEmpty then
    set { session with pending := [] }
    session.pending.forM fun signal =>
      (session.scope.traps.lookup signal).forM (runTrap outside)

def wait (outside : Outside) (arguments : List String) : Action Unit := do
  let (_, rest) ← options "" "" arguments
  runJobs outside
  setStatus 0
  rest.forM fun text => do
    if text.startsWith "%" then fail ("No such job: " ++ text)
    let process ← number text
    match (← get).ended.lookup process with
    | some exit => settle exit
    | none => setStatus 127

end TraceWeave.Shell.Session
