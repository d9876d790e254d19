import TraceWeave.Shell.Launch
import TraceWeave.Text.Quoted
import TraceWeave.World

/-! Tools that are executables, one that exports and one that imports. -/

namespace TraceWeave.Toolset

def exportOptions : List String := ["-u", "-p"]

/-- Runs a tool and gives back what it printed. -/
def runTool (environment : List (String × String)) (tool : Tool) (command : String)
    (arguments : List String) : StateM World (Except ToolError String) := fun world =>
  let said : LogRecord := ⟨.tools, .debug, "Running " ++ Text.quotedCommand command arguments⟩
  let world := { world with journal := world.journal.push (.log said) }
  match Shell.start command arguments environment world.files with
  | .error .noEntry => (.error (.notFound tool command), world)
  | .error cause => (.error (.unstartable tool command cause), world)
  | .ok outcome =>
    let world := { world with files := outcome.files }
    let stdout := Text.ofUtf8Lossy outcome.output
    if outcome.status? = some 0 then (.ok stdout, world)
    else
      let status? := outcome.status?.map Int.ofNat
      (.error (.failed tool status? stdout (Text.ofUtf8Lossy outcome.errors)), world)

/-- The tools at two commands, which are told of the environment. -/
def external (environment : List (String × String)) (exporter importer : String) : Toolset where
  extract path := do
    let result ← runTool environment .exporter exporter (exportOptions ++ [path])
    return result.map Row.ofCsv
  reencode input output := do
    let result ← runTool environment .importer importer [input, output]
    return result.map fun _ => ()

end TraceWeave.Toolset
