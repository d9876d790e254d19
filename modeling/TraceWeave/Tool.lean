import TraceWeave.Files.Cause

/-! The two tools of a run: one exports a trace as a table, the other imports the merged
document. -/

namespace TraceWeave

inductive Tool where
  | exporter
  | importer
  deriving DecidableEq

def Tool.name : Tool → String
  | .exporter => "export"
  | .importer => "import"

inductive ToolError where
  /-- There is no such executable. -/
  | notFound (tool : Tool) (path : String)
  /-- The tool ran and did not succeed; a signal leaves no status. -/
  | failed (tool : Tool) (status? : Option Int) (stdout stderr : String)
  /-- The tool could not be started for another reason. -/
  | unstartable (tool : Tool) (path : String) (cause : Cause)
  deriving DecidableEq

namespace ToolError

def message : ToolError → String
  | .notFound tool path => "Trace " ++ tool.name ++ " tool not found: " ++ path
  | .failed tool (some status) _ _ =>
    "Trace " ++ tool.name ++ " tool exited with status " ++ toString status
  | .failed tool none _ _ => "Trace " ++ tool.name ++ " tool terminated by signal"
  | .unstartable tool path cause =>
    "Failed to run trace " ++ tool.name ++ " tool " ++ path ++ ": " ++ cause.message

/-- The messages of what lies behind the error, outermost first. -/
def sources : ToolError → List String
  | .unstartable _ _ cause => [cause.message]
  | _ => []

end ToolError

end TraceWeave
