import TraceWeave.Trace

/-! Frame markers.

An instrumented process keeps stamping its frame counter into a plot. The index of a marker
gives each frame number the time of its first occurrence. Indices are equal when they give the
same times, whatever samples they were built from, and list their frames in ascending order. -/

namespace TraceWeave

/-- The frame that a sampled value names: the nearest integer, ties to even, where it is in the
64-bit range. -/
def frameNumber? (value : Binary64) : Option Int64 := value.nearestInt?.bind Clamped.ofInt?

structure MarkerIndex where
  firstSeen : Std.ExtTreeMap Int64 Int64
  deriving DecidableEq

namespace MarkerIndex

def empty : MarkerIndex := ⟨∅⟩

/-- Takes note of a frame that was not seen before. -/
def note (index : MarkerIndex) (frame time : Int64) : MarkerIndex :=
  ⟨index.firstSeen.insertIfNew frame time⟩

/-- The index after one more sample of the marker called `name`. -/
def add (name : String) (index : MarkerIndex) (plot : Plot) : MarkerIndex :=
  if plot.name = name then
    match frameNumber? plot.value with
    | some frame => index.note frame plot.time
    | none => index
  else index

def ofPlots (plots : List Plot) (name : String) : MarkerIndex := plots.foldl (add name) empty

/-- The time of the first occurrence of a frame. -/
def time? (index : MarkerIndex) (frame : Int64) : Option Int64 := index.firstSeen[frame]?

def size (index : MarkerIndex) : Nat := index.firstSeen.size

/-- The frames in ascending order. -/
def frames (index : MarkerIndex) : List Int64 := index.firstSeen.keys

def entries (index : MarkerIndex) : List (Int64 × Int64) := index.firstSeen.toList

/-- The smallest frame that both indices have. -/
def smallestShared? (a b : MarkerIndex) : Option Int64 :=
  a.frames.find? fun frame => (b.time? frame).isSome

theorem time?_note (index : MarkerIndex) (frame time other : Int64) :
    (index.note frame time).time? other =
      if frame = other ∧ index.time? frame = none then some time else index.time? other := by
  simp only [note, time?, Std.ExtTreeMap.getElem?_insertIfNew, Std.LawfulEqCmp.compare_eq_iff_eq,
    Std.ExtTreeMap.mem_iff_isSome_getElem?, Option.not_isSome_iff_eq_none]
  congr

theorem ext_time? {a b : MarkerIndex} (h : ∀ frame, a.time? frame = b.time? frame) : a = b := by
  cases a; cases b
  exact congrArg MarkerIndex.mk (Std.ExtTreeMap.ext_getElem? h)

end MarkerIndex

end TraceWeave
