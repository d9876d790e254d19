import TraceWeave.CommandLine.Reading
import TraceWeave.Journal.Filter
import TraceWeave.Run
import TraceWeave.World

/-! A call of the program, whatever its tools are: from the arguments and the files to the exit
status, what is printed and what becomes of the files. -/

namespace TraceWeave.CommandLine

structure Result where
  status : Nat
  stdout : String
  /-- What is shown besides, in order. -/
  shown : List Remark
  files : Files

/-- The status of a call that cannot be understood. -/
def usageStatus : Nat := 2

/-- Which log records are shown: those that the environment asks for, else those that the options
ask for. -/
def logFilter (config : Config) (asked? : Option String) : LogFilter :=
  ((asked?.bind LogFilter.read?).orElse fun () => LogFilter.read? config.logLevel).getD []

def run (tools : Toolset) (given : Given) (asked? : Option String) (files : Files) : Result :=
  let config := given.config
  let (report, world) := Run.perform (Host.ofToolset tools) config (.ofFiles files)
  { status := Run.exitStatus report
    stdout := world.printed
    shown := world.journal.toList.filter ((logFilter config asked?).shows)
    files := world.files }

/-- Calls the program. Its tools are those at two commands, that of the exporter and that of the
importer. -/
def callWith (toolsAt : String → String → Toolset) (arguments : List String)
    (asked? : Option String) (files : Files) : Result :=
  match Given.ofArguments arguments with
  | .ok given => run (toolsAt (given.value .exporter) (given.value .importer)) given asked? files
  | .error .help => ⟨0, helpText, [], files⟩
  | .error .version => ⟨0, versionText, [], files⟩
  | .error (.error error) => ⟨usageStatus, "", [.plain error.message], files⟩

end TraceWeave.CommandLine
