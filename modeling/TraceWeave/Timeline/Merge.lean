import TraceWeave.Binary64.Order
import TraceWeave.Timeline

/-! Merging two timelines.

If the earliest time is negative, all times are moved by one whole number of nanoseconds, the
one that the earliest time comes to when it is turned around and rounded. Then the events are
sorted by time, thread names counting as time zero, and events of equal time keep their order, the
viewer's before the layer's. -/

namespace TraceWeave

/-- The move of a timeline that starts before zero. -/
structure Normalization where
  earliest : Binary64
  shift : Int64
  deriving DecidableEq

structure MergedTimeline where
  events : List Event
  normalization? : Option Normalization
  deriving DecidableEq

namespace MergedTimeline

/-- The nanoseconds that were added to every time. -/
def shift (merged : MergedTimeline) : Int64 :=
  match merged.normalization? with
  | some n => n.shift
  | none => 0

/-- The first number in the order of all numbers. -/
def least? : List Binary64 → Option Binary64
  | [] => none
  | x :: xs => some (xs.foldl (fun best y => if y.rank < best.rank then y else best) x)

def normalizationOf? (events : List Event) : Option Normalization :=
  match least? (events.filterMap Event.time?) with
  | none => none
  | some earliest =>
    if earliest.isNegative then some ⟨earliest, (earliest.neg.scale 1000 1).round⟩ else none

/-- The time that an event is sorted by. -/
def sortTime (event : Event) : Binary64 := event.time?.getD Binary64.zero

def inOrder (a b : Event) : Bool := !(sortTime b).lt (sortTime a)

def ofEvents (viewer layer : List Event) : MergedTimeline :=
  let events := viewer ++ layer
  let normalization? := normalizationOf? events
  let moved :=
    match normalization? with
    | some n => events.map (Event.delay (microseconds n.shift))
    | none => events
  ⟨moved.mergeSort inOrder, normalization?⟩

end MergedTimeline

end TraceWeave
