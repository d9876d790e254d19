/-! What a run says while it goes on: log records, each from some part of the program and of some
level, and plain text. -/

namespace TraceWeave

inductive LogLevel where
  | error
  | warn
  | info
  | debug
  | trace
  deriving DecidableEq

namespace LogLevel

/-- Larger for what is said less often asked for. -/
def detail : LogLevel → Nat
  | .error => 1
  | .warn => 2
  | .info => 3
  | .debug => 4
  | .trace => 5

def name : LogLevel → String
  | .error => "ERROR"
  | .warn => "WARN"
  | .info => "INFO"
  | .debug => "DEBUG"
  | .trace => "TRACE"

end LogLevel

inductive LogSource where
  | tools
  | run
  | alignment
  | timeline
  | report
  deriving DecidableEq

/-- The name that filters know a part by. -/
def LogSource.name : LogSource → String
  | .tools => "tracemerge::tools"
  | .run => "tracemerge::pipeline"
  | .alignment => "tracemerge::align"
  | .timeline => "tracemerge::timeline"
  | .report => "tracemerge::report"

structure LogRecord where
  source : LogSource
  level : LogLevel
  text : String
  deriving DecidableEq

namespace LogRecord

/-- A character as it is written. Those that a terminal would act on are written by their
codes. -/
def escape (c : Char) : List Char :=
  let n := c.toNat
  let low := [Nat.digitChar (n / 16), Nat.digitChar (n % 16)]
  if n = 0x07 ∨ n = 0x08 ∨ n = 0x0C ∨ n = 0x1B ∨ n = 0x7F then '\\' :: 'x' :: low
  else if 0x80 ≤ n ∧ n ≤ 0x9F then '\\' :: 'u' :: '\x7b' :: low ++ ['\x7d']
  else [c]

/-- The record as it is written, behind its time. -/
def line (record : LogRecord) : String :=
  record.level.name ++ " " ++ String.ofList (record.text.toList.flatMap escape)

end LogRecord

inductive Remark where
  | log (record : LogRecord)
  | plain (text : String)
  deriving DecidableEq

end TraceWeave
