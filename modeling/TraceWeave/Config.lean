import TraceWeave.Alignment

/-! The settings of a run. -/

namespace TraceWeave

structure Config where
  verbosity : Nat
  viewerTrace : String
  layerTrace : String
  /-- The merged trace that the import tool produces. -/
  outputTrace : String
  /-- The interchange document. -/
  interchange : String
  /-- The report of the run. -/
  summary : String
  viewerMarker : String
  layerMarker : String
  /-- Whether to compare raw times, whatever the markers say. -/
  alignmentDisabled : Bool
  deriving DecidableEq

namespace Config

def defaultViewerMarker := "goggles_source_frame"
def defaultLayerMarker := "goggles_layer_frame"

def standard : Config where
  verbosity := 0
  viewerTrace := "viewer.tracy"
  layerTrace := "layer.tracy"
  outputTrace := "merged.tracy"
  interchange := "merged.json"
  summary := "merge_summary.json"
  viewerMarker := defaultViewerMarker
  layerMarker := defaultLayerMarker
  alignmentDisabled := false

def markers? (config : Config) : Option MarkerNames :=
  if config.alignmentDisabled then none else some ⟨config.viewerMarker, config.layerMarker⟩

def logLevel (config : Config) : String :=
  match config.verbosity with
  | 0 => "warn"
  | 1 => "info"
  | 2 => "debug"
  | _ => "trace"

end Config

end TraceWeave
