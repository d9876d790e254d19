import TraceWeave.Interchange
import TraceWeave.Json.Access
import TraceWeave.Json.Reader

/-! Reading interchange documents back. -/

namespace TraceWeave.Interchange

def process? (value : Json) : Option UInt32 := do
  let n ← value.nat?
  if n < UInt32.size then some n.toUInt32 else none

def span? (value : Json) : Option Event :=
  match value.fields? ["name", "ph", "pid", "tid", "ts", "dur"] with
  | some [name, .string "X", process, thread, start, duration] => do
    some (.span (← name.string?) (← process? process) (← thread.int64?) (← start.real?)
      (← duration.real?))
  | _ => none

def sample? (value : Json) : Option Event :=
  match value.fields? ["name", "ph", "pid", "tid", "ts", "args"] with
  | some [name, .string "C", process, thread, time, args] => do
    match ← args.fields? ["value"] with
    | [value] =>
      some (.sample (← name.string?) (← process? process) (← thread.int64?) (← time.real?)
        (← value.real?))
    | _ => none
  | _ => none

def threadName? (value : Json) : Option Event :=
  match value.fields? ["name", "ph", "pid", "tid", "args"] with
  | some [.string "thread_name", .string "M", process, thread, args] => do
    match ← args.fields? ["name"] with
    | [name] => some (.threadName (← process? process) (← thread.int64?) (← name.string?))
    | _ => none
  | _ => none

/-- The event of an element. No element is of two kinds. -/
def event? (value : Json) : Option Event := span? value <|> sample? value <|> threadName? value

def events? (value : Json) : Option (List Event) := do
  match ← value.fields? ["traceEvents"] with
  | [events] => (← events.items?).mapM event?
  | _ => none

/-- The events that a document stands for. -/
def read? (text : String) : Option (List Event) := (Json.read? text).bind events?

end TraceWeave.Interchange
