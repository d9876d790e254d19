import TraceWeave.Shell.Program.Coding
import TraceWeave.Shell.Program.Columns
import TraceWeave.Shell.Program.Expr
import TraceWeave.Shell.Program.Grep
import TraceWeave.Shell.Program.Saying
import TraceWeave.Shell.Program.Sed
import TraceWeave.Shell.Session

/-! The programs that start no others, by name. -/

namespace TraceWeave.Shell.Program

def table : List (String × Program) :=
  [("[", test "["), ("arch", saying "x86_64"), ("base64", base64), ("basename", basename),
    ("cat", cat), ("chmod", chmod), ("cmp", cmp), ("cp", cp), ("cut", cut), ("dd", dd),
    ("dirname", dirname), ("echo", echo), ("egrep", grepAs true false), ("expr", Expr.run),
    ("false", fun _ => Desk.setStatus 1), ("fgrep", grepAs false true), ("fold", fold),
    ("grep", grep), ("head", head), ("id", id), ("link", link), ("ln", ln), ("ls", ls),
    ("mkdir", mkdir), ("mktemp", mktemp), ("mv", mv), ("nl", nl), ("nproc", saying "1"),
    ("od", od), ("paste", paste), ("printenv", printenv), ("printf", printf),
    ("pwd", pwd), ("readlink", readlink), ("realpath", realpath), ("rev", rev), ("rm", rm),
    ("rmdir", rmdir), ("sed", sed), ("seq", seq), ("sleep", sleep), ("sort", sort), ("stat", stat),
    ("sync", fun _ => pure ()), ("tac", tac), ("tail", tail), ("tee", tee), ("test", test "test"),
    ("touch", touch), ("tr", tr), ("true", fun _ => pure ()), ("truncate", truncate), ("tty", tty),
    ("uname", saying "Linux"), ("uniq", uniq), ("unlink", unlink), ("wc", wc), ("which", which),
    ("whoami", saying "root"), ("yes", yes)]

/-- What a program says that could not write its output, by what the program is. -/
def unwrittenNotes (program name : String) (cause : Cause) : List String :=
  match program with
  | "sed" => [name ++ ": couldn't flush stdout: " ++ cause.reason]
  | "sort" =>
    [name ++ ": fflush failed: 'standard output': " ++ cause.reason, name ++ ": write error"]
  | "tee" => [name ++ ": 'standard output': " ++ cause.reason]
  | "yes" | "cmp" => [name ++ ": standard output: " ++ cause.reason]
  | "wc" => [name ++ ": write error"]
  | "cat" =>
    let what := if cause = .badDescriptor then "standard output" else "write error"
    [name ++ ": " ++ what ++ ": " ++ cause.reason]
  | _ => [name ++ ": write error: " ++ cause.reason]

def unwrittenStatus (program : String) (trouble : Nat) : Nat :=
  match program with
  | "sed" => 4
  | "expr" => 3
  | "env" => 125
  | "printenv" | "grep" | "sort" | "ls" => 2
  | _ => trouble

/-- Runs what a program does and says at the end if the output could not be written. -/
def finishing (program : String) (action : StateM Desk Unit) : StateM Desk Unit := do
  action
  let desk ← get
  match desk.unwritten? with
  | none => pure ()
  | some cause =>
    (unwrittenNotes program desk.name cause).forM Desk.note
    Desk.setStatus (unwrittenStatus program desk.trouble)

def deskOf (program : String) (call : Call) (system : System) : Desk :=
  ⟨call.words.headD program, system, call.descriptors, call.environment, 0, 1, none⟩

def start (program : String) (run : Program) (call : Call) (system : System) : Exit × System :=
  let (_, desk) := finishing program (run (call.words.drop 1)) (deskOf program call system)
  (.status desk.status, desk.system)

end TraceWeave.Shell.Program
