import TraceWeave.Binary64.Integer
import TraceWeave.Decimal.Nearest
import TraceWeave.Row

/-! Traces decoded from the rows of an export.

Each row stands for one zone (an interval of work), one plot (a sampled value) or nothing, by
itself. A row without a readable time is nothing. With a duration it is a zone or nothing, never
a plot; without one it is a plot if it has a value. Both need a name. -/

namespace TraceWeave

/-- An interval of work on a thread, in nanoseconds of the clock of its trace. -/
structure Zone where
  name : String
  start : Int64
  duration : Int64
  thread : Int64
  deriving DecidableEq

/-- A value sampled at one time. -/
structure Plot where
  name : String
  time : Int64
  value : Binary64
  thread : Int64
  deriving DecidableEq

structure Trace where
  zones : List Zone
  plots : List Plot
  deriving DecidableEq

inductive Occurrence where
  | zone (zone : Zone)
  | plot (plot : Plot)
  deriving DecidableEq

namespace Occurrence

def zone? : Occurrence → Option Zone
  | .zone z => some z
  | .plot _ => none

def plot? : Occurrence → Option Plot
  | .zone _ => none
  | .plot p => some p

end Occurrence

namespace Column

def name := "name"
def time := "ns_since_start"
def duration := "exec_time_ns"
def value := "value"
def thread := "thread"

end Column

/-- A finite number. -/
def readReal? (text : String) : Option Binary64 := Binary64.readFinite? text.toList

/-- A finite number cut to whole nanoseconds within the 64-bit range. -/
def readNanoseconds? (text : String) : Option Int64 := (readReal? text).map Binary64.truncate

/-- A thread number, zero where the text is none. -/
def readThread (text : String) : Int64 := (Numeral.readInt64? text.toList).getD 0

/-- What a row stands for. -/
def Row.occurrence? (row : Row) : Option Occurrence := do
  let time ← readNanoseconds? (row.field Column.time)
  let name := row.field Column.name
  let thread := readThread (row.field Column.thread)
  if row.field Column.duration ≠ "" then
    let duration ← readNanoseconds? (row.field Column.duration)
    if name = "" then none else some (.zone ⟨name, time, duration, thread⟩)
  else if row.field Column.value = "" ∨ name = "" then none
  else
    let value ← readReal? (row.field Column.value)
    some (.plot ⟨name, time, value, thread⟩)

namespace Trace

def empty : Trace := ⟨[], []⟩

def isEmpty (trace : Trace) : Bool := trace.zones.isEmpty && trace.plots.isEmpty

/-- The occurrences of the rows, zones and plots apart, each in the order of the rows. -/
def ofRows (rows : List Row) : Trace :=
  let occurrences := rows.filterMap Row.occurrence?
  ⟨occurrences.filterMap Occurrence.zone?, occurrences.filterMap Occurrence.plot?⟩

end Trace

end TraceWeave
