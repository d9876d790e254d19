import Std.Data.ExtTreeSet
import TraceWeave.Trace

/-! Timelines: the events of a trace in microseconds, ready to be merged with those of another. -/

namespace TraceWeave

inductive Event where
  /-- A zone of known duration. -/
  | span (name : String) (process : UInt32) (thread : Int64) (start duration : Binary64)
  /-- A sampled value. -/
  | sample (name : String) (process : UInt32) (thread : Int64) (time value : Binary64)
  /-- The name of a thread; it has no time. -/
  | threadName (process : UInt32) (thread : Int64) (displayName : String)
  deriving DecidableEq

namespace Event

def time? : Event → Option Binary64
  | .span _ _ _ start _ => some start
  | .sample _ _ _ time _ => some time
  | .threadName .. => none

def process : Event → UInt32
  | .span _ process .. => process
  | .sample _ process .. => process
  | .threadName process .. => process

/-- The event so many microseconds later; a thread name stays as it is. -/
def delay (delta : Binary64) : Event → Event
  | .span name process thread start duration => .span name process thread (start.add delta) duration
  | .sample name process thread time value => .sample name process thread (time.add delta) value
  | event => event

end Event

/-- Nanoseconds as microseconds: the nearest binary64 number to the count, divided by 1000 and
rounded again. -/
def microseconds (ns : Int64) : Binary64 := (Binary64.ofInt ns.toInt).scale 1 1000

/-- The events of one trace and the threads that they are on, in ascending order. -/
structure Timeline where
  events : List Event
  threads : List Int64
  deriving DecidableEq

namespace Timeline

def spanOf (process : UInt32) (shift : Int64) (zone : Zone) : Event :=
  .span zone.name process zone.thread (microseconds (Clamped.add zone.start shift))
    (microseconds zone.duration)

def sampleOf (process : UInt32) (shift : Int64) (plot : Plot) : Event :=
  .sample plot.name process plot.thread (microseconds (Clamped.add plot.time shift)) plot.value

def threadNameOf (process : UInt32) (role : String) (thread : Int64) : Event :=
  .threadName process thread (role ++ "-thread-" ++ toString thread.toInt)

def threadsOf (trace : Trace) : List Int64 :=
  (Std.ExtTreeSet.ofList (trace.zones.map (·.thread) ++ trace.plots.map (·.thread))).toList

/-- The timeline of a trace with every time moved by `shift`: spans, then samples, then the name
of each thread. -/
def ofTrace (trace : Trace) (process : UInt32) (shift : Int64) (role : String) : Timeline :=
  let threads := threadsOf trace
  ⟨trace.zones.map (spanOf process shift) ++ trace.plots.map (sampleOf process shift)
    ++ threads.map (threadNameOf process role), threads⟩

end Timeline

end TraceWeave
