import TraceWeave.Shell.Script
import TraceWeave.Shell.Session

/-! Parts of a script that run on their own: subshells and commands in the background. Both share
the files and the open streams with the script, and nothing else.

A command in the background waits for its turn, which comes when the script waits for it, takes
what it prints, or ends. -/

namespace TraceWeave.Shell.Session

/-- Runs what is to be run on a signal. The status stays as it was. -/
def runTrap (outside : Outside) (text : String) : Action Unit := do
  let status := (← get).status
  outside.run (Script.read false text 1) ⟨false, ""⟩
  setStatus status

def runExitTrap (outside : Outside) : Action Unit := do
  let scope := (← get).scope
  modifyScope ({ · with traps := [] })
  (scope.traps.lookup 0).forM (runTrap outside)

/-- Runs an action to its end, be that early, with what is to be run at the end. Only a signal
shows. -/
def toEnd (outside : Outside) (action : Action Unit) : Action Unit := fun session =>
  let finished (after : Session) : EStateM.Result Ending Session Unit :=
    match runExitTrap outside after with
    | .error (.killed signal) after => .error (.killed signal) after
    | .ok _ after | .error _ after => .ok () after
  match action session with
  | .error (.killed signal) after => .error (.killed signal) after
  | .ok () after | .error _ after => finished after

/-- Runs a part of a script whose variables, arguments and exit concern nobody else. What it leaves
in the background becomes the background of the script. -/
def isolated (outside : Outside) (action : Action Unit) : Action Unit := fun session =>
  let begun := { session with scope := session.scope.apart, jobs := [], ended := [] }
  let restored (after : Session) : Session :=
    let files := { after.system.files with
      workingDirectory := session.system.files.workingDirectory }
    { session with
      system := { after.system with files }
      status := after.status
      jobs := session.jobs ++ after.jobs
      nextProcess := after.nextProcess }
  match toEnd outside action begun with
  | .ok () after => .ok () (restored after)
  | .error ending after => .error ending (restored after)

/-- Runs an action with a new pipe for what it prints and gives that back. -/
def capturing (action : Action Unit) : Action String := do
  let session ← get
  let (stream, system) := session.system.add (.pipe ByteArray.empty 0)
  set { session with system }
  redirecting (session.descriptors.set 1 stream) action
  return Raw.ofBytes ((← get).system.rest stream)

/-! ### The background -/

/-- Leaves a command to the background. Its input is empty. -/
def addJob (command : Command) : Action Unit := do
  let process ← newProcess
  let session ← get
  let (stream, system) := session.system.add (.device .null)
  let job : Job := {
    process, command
    scope := session.scope
    descriptors := session.descriptors.set 0 stream
    workingDirectory := session.system.files.workingDirectory }
  set { session with
    system
    scope := { session.scope with background? := some process }
    jobs := session.jobs ++ [job]
    status := 0 }

def runJob (outside : Outside) (job : Job) : Action Unit := do
  let session ← get
  let files := { session.system.files with workingDirectory := job.workingDirectory }
  set { session with
    system := { session.system with files }
    scope := job.scope
    descriptors := job.descriptors }
  isolated outside (outside.run job.command ⟨false, ""⟩)
  modify fun after =>
    let files := { after.system.files with
      workingDirectory := session.system.files.workingDirectory }
    { after with
      system := { after.system with files }
      scope := session.scope
      descriptors := session.descriptors
      status := session.status
      line := session.line
      ended := (job.process, .status after.status) :: after.ended }

def runJobsFrom (outside : Outside) : Nat → Action Unit
  | 0 => pure ()
  | rounds + 1 => do
    match (← get).jobs with
    | [] => pure ()
    | jobs =>
      modify fun session => { session with jobs := [] }
      jobs.forM (runJob outside)
      runJobsFrom outside rounds

/-- Runs all that is in the background, also what that leaves there, for so many rounds. -/
def runJobs (outside : Outside) : Action Unit := runJobsFrom outside 64

end TraceWeave.Shell.Session
