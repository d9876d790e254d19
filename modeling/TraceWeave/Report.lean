import TraceWeave.Alignment
import TraceWeave.Json
import TraceWeave.Timeline.Merge

/-! The report of a run: what was found, how the traces were aligned and whether it succeeded.
What a run did not reach keeps its initial value. -/

namespace TraceWeave

structure Counts where
  viewerZones : Nat
  viewerPlots : Nat
  layerZones : Nat
  layerPlots : Nat
  viewerThreads : Nat
  layerThreads : Nat
  mergedEvents : Nat
  deriving DecidableEq

structure Report where
  success : Bool
  warnings : List String
  alignment : Alignment
  /-- Nanoseconds that were added to every time of the merged timeline. -/
  normalization : Int64
  counts : Counts
  deriving DecidableEq

namespace Report

def initial : Report := ⟨false, [], .relativeTime, 0, ⟨0, 0, 0, 0, 0, 0, 0⟩⟩

def warn (report : Report) (warning : String) : Report :=
  { report with warnings := report.warnings ++ [warning] }

def hasWarnings (report : Report) : Bool := !report.warnings.isEmpty

def recordViewer (report : Report) (trace : Trace) : Report :=
  { report with counts := { report.counts with
    viewerZones := trace.zones.length, viewerPlots := trace.plots.length } }

def recordLayer (report : Report) (trace : Trace) : Report :=
  { report with counts := { report.counts with
    layerZones := trace.zones.length, layerPlots := trace.plots.length } }

/-- Takes over an alignment and warns when it is a fallback. -/
def recordAlignment (report : Report) (resolution : Resolution) : Report :=
  let report := { report with alignment := resolution.alignment }
  match resolution.fallback? with
  | some fallback => report.warn fallback.message
  | none => report

/-- Takes over what the two timelines and their merge came to. -/
def recordMerge (report : Report) (viewer layer : Timeline) (merged : MergedTimeline) : Report :=
  { report with
    normalization := merged.shift
    counts := { report.counts with
      viewerThreads := viewer.threads.length
      layerThreads := layer.threads.length
      mergedEvents := merged.events.length } }

end Report

def AlignmentMethod.name : AlignmentMethod → String
  | .frameMarker => "frame_marker"
  | .relativeTime => "relative_time"

namespace Report

def alignmentJson (report : Report) : Json :=
  .object [
    ("method", .string report.alignment.method.name),
    ("frame_number", match report.alignment.frame? with
      | some frame => .int frame.toInt
      | none => .null),
    ("layer_shift_ns", .int report.alignment.layerShift.toInt),
    ("normalization_shift_ns", .int report.normalization.toInt)]

def countsJson (counts : Counts) : Json :=
  .object [
    ("viewer_zones", .int counts.viewerZones),
    ("viewer_plots", .int counts.viewerPlots),
    ("layer_zones", .int counts.layerZones),
    ("layer_plots", .int counts.layerPlots),
    ("viewer_threads", .int counts.viewerThreads),
    ("layer_threads", .int counts.layerThreads),
    ("merged_events", .int counts.mergedEvents)]

def toJson (report : Report) : Json :=
  .object [
    ("success", .bool report.success),
    ("warnings", .array (report.warnings.map .string)),
    ("alignment", alignmentJson report),
    ("counts", countsJson report.counts)]

/-- The report as an indented document. -/
def text (report : Report) : String := report.toJson.document .indented

end Report

end TraceWeave
