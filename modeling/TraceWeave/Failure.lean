import TraceWeave.Tool

/-! What ends a run early. -/

namespace TraceWeave

inductive Failure where
  /-- An input trace is missing, empty or no file. -/
  | invalidInput (path : String)
  | tool (error : ToolError)
  /-- The interchange document could not be written; the causes stand outermost first. -/
  | output (causes : List String)
  deriving DecidableEq

namespace Failure

def message : Failure → String
  | .invalidInput path => "Missing or empty trace file: " ++ path
  | .tool (.failed .exporter ..) => "Trace export tool failed while parsing trace files."
  | .tool (.failed .importer ..) =>
    "Failed to import merged interchange trace into native output."
  | .tool error => error.message
  | .output causes => "Failed to write interchange document: " ++ ": ".intercalate causes

def sources : Failure → List String
  | .invalidInput _ => []
  | .tool error => error.message :: error.sources
  | .output causes => causes

def toolError? : Failure → Option ToolError
  | .tool error => some error
  | _ => none

/-- What is printed ahead of the message: the output of a tool that failed. -/
def captured : Failure → List String
  | .tool (.failed _ _ stdout stderr) => [stdout, stderr]
  | _ => []

end Failure

end TraceWeave
