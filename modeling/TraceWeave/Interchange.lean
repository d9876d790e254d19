import TraceWeave.Json
import TraceWeave.Timeline

/-! The interchange document: the events of a timeline in the trace event format. -/

namespace TraceWeave.Interchange

def heading (name phase : String) (process : UInt32) (thread : Int64) : List (String × Json) :=
  [("name", .string name), ("ph", .string phase), ("pid", .int process.toNat),
    ("tid", .int thread.toInt)]

/-- A span is a complete event `X`, a sample a counter `C`, a thread name metadata `M`. -/
def ofEvent : Event → Json
  | .span name process thread start duration =>
    .object (heading name "X" process thread ++ [("ts", .real start), ("dur", .real duration)])
  | .sample name process thread time value =>
    .object (heading name "C" process thread
      ++ [("ts", .real time), ("args", .object [("value", .real value)])])
  | .threadName process thread displayName =>
    .object (heading "thread_name" "M" process thread
      ++ [("args", .object [("name", .string displayName)])])

def ofEvents (events : List Event) : Json :=
  .object [("traceEvents", .array (events.map ofEvent))]

end TraceWeave.Interchange
