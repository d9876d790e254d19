import TraceWeave.Marker

/-! Placing the layer trace on the clock of the viewer trace.

The two clocks have nothing in common but the frame markers. The smallest frame that both traces
show gives the shift of the layer: the difference of the first times of that frame. Without such
a frame, or when the caller wants none, the raw times are compared as they are. -/

namespace TraceWeave

inductive AlignmentMethod where
  | frameMarker
  | relativeTime
  deriving DecidableEq

structure Alignment where
  method : AlignmentMethod
  frame? : Option Int64
  /-- Nanoseconds to add to every time of the layer. -/
  layerShift : Int64
  deriving DecidableEq

/-- The names of the marker plots in the two traces. -/
structure MarkerNames where
  viewer : String
  layer : String
  deriving DecidableEq

/-- Why raw times are compared. -/
inductive Fallback where
  | disabled
  | noCommonFrame
  deriving DecidableEq

def Fallback.message : Fallback → String
  | .disabled => "Marker alignment disabled; using relative-time fallback."
  | .noCommonFrame =>
    "No common frame marker values found across traces; using relative-time fallback."

namespace Alignment

def relativeTime : Alignment := ⟨.relativeTime, none, 0⟩

/-- Alignment on the smallest frame of both indices. -/
def ofMarkers? (viewer layer : MarkerIndex) : Option Alignment := do
  let frame ← viewer.smallestShared? layer
  let viewerTime ← viewer.time? frame
  let layerTime ← layer.time? frame
  some ⟨.frameMarker, some frame, Clamped.sub viewerTime layerTime⟩

end Alignment

/-- An alignment with what led to it. -/
structure Resolution where
  alignment : Alignment
  fallback? : Option Fallback
  /-- The sizes of the viewer's and the layer's index, when they were built. -/
  indexed? : Option (Nat × Nat)

/-- Aligns two traces on the named markers, or on raw times when there are no names. -/
def Resolution.ofTraces (viewer layer : Trace) : Option MarkerNames → Resolution
  | none => ⟨.relativeTime, some .disabled, none⟩
  | some names =>
    let viewerIndex := MarkerIndex.ofPlots viewer.plots names.viewer
    let layerIndex := MarkerIndex.ofPlots layer.plots names.layer
    let indexed := some (viewerIndex.size, layerIndex.size)
    match Alignment.ofMarkers? viewerIndex layerIndex with
    | some alignment => ⟨alignment, none, indexed⟩
    | none => ⟨.relativeTime, some .noCommonFrame, indexed⟩

end TraceWeave
