import TraceWeave.Json.Access
import TraceWeave.Json.Reader
import TraceWeave.Report

/-! Reading reports back. -/

namespace TraceWeave

def AlignmentMethod.ofName? (name : String) : Option AlignmentMethod :=
  [AlignmentMethod.frameMarker, .relativeTime].find? (·.name = name)

namespace Report

/-- A frame number, or none where the value is null. -/
def frame? : Json → Option (Option Int64)
  | .null => some none
  | value => value.int64?.map some

def alignment? (value : Json) : Option (Alignment × Int64) := do
  match ← value.fields?
    ["method", "frame_number", "layer_shift_ns", "normalization_shift_ns"] with
  | [method, frame, shift, normalization] =>
    let method ← AlignmentMethod.ofName? (← method.string?)
    some (⟨method, ← frame? frame, ← shift.int64?⟩, ← normalization.int64?)
  | _ => none

def counts? (value : Json) : Option Counts := do
  let numbers ← (← value.fields? ["viewer_zones", "viewer_plots", "layer_zones", "layer_plots",
    "viewer_threads", "layer_threads", "merged_events"]).mapM Json.nat?
  match numbers with
  | [viewerZones, viewerPlots, layerZones, layerPlots, viewerThreads, layerThreads,
      mergedEvents] =>
    some ⟨viewerZones, viewerPlots, layerZones, layerPlots, viewerThreads, layerThreads,
      mergedEvents⟩
  | _ => none

def ofJson? (value : Json) : Option Report := do
  match ← value.fields? ["success", "warnings", "alignment", "counts"] with
  | [success, warnings, alignment, counts] =>
    let (alignment, normalization) ← alignment? alignment
    some ⟨← success.bool?, ← (← warnings.items?).mapM Json.string?, alignment, normalization,
      ← counts? counts⟩
  | _ => none

/-- The report that a document stands for. -/
def read? (text : String) : Option Report := (Json.read? text).bind ofJson?

end Report

end TraceWeave
