import TraceWeave.Config
import TraceWeave.Failure
import TraceWeave.Host
import TraceWeave.Interchange
import TraceWeave.Report

/-! A run: check the inputs, decode both traces, align and merge them, write the interchange
document and have it imported. The first failure ends the work. The report is then written once,
whatever happened, with all that was found up to that point. -/

namespace TraceWeave

/-- The process numbers and roles of the two traces in the merged timeline. -/
def viewerProcess : UInt32 := 1
def layerProcess : UInt32 := 2
def viewerRole := "viewer"
def layerRole := "layer"

/-- The timelines of two traces, the layer's moved by the shift of the alignment, and what they
merge to. -/
structure Weave where
  viewer : Timeline
  layer : Timeline
  merged : MergedTimeline

def Weave.ofTraces (viewer layer : Trace) (layerShift : Int64) : Weave :=
  let viewerTimeline := Timeline.ofTrace viewer viewerProcess 0 viewerRole
  let layerTimeline := Timeline.ofTrace layer layerProcess layerShift layerRole
  ⟨viewerTimeline, layerTimeline,
    MergedTimeline.ofEvents viewerTimeline.events layerTimeline.events⟩

namespace Run

/-- Where a run stands: the state of its host and the report so far. -/
structure Progress (σ : Type) where
  state : σ
  report : Report

end Run

/-- A step of a run, which keeps its progress also when it fails. -/
abbrev Run (σ : Type) := EStateM Failure (Run.Progress σ)

namespace Run

variable {σ : Type}

def ask {α : Type} (action : StateM σ α) : Run σ α := fun progress =>
  let (answer, state) := action progress.state
  .ok answer { progress with state }

def update (change : Report → Report) : Run σ Unit := fun progress =>
  .ok () { progress with report := change progress.report }

def log (host : Host σ) (record : LogRecord) : Run σ Unit := ask (host.remark (.log record))

def requireContent (host : Host σ) (path : String) : Run σ Unit := do
  let present ← ask (host.hasContent path)
  if present then pure () else throw (.invalidInput path)

def extract (host : Host σ) (path : String) : Run σ Trace := do
  match ← ask (host.extract path) with
  | .error error => throw (.tool error)
  | .ok rows =>
    let trace := Trace.ofRows rows
    let found := s!"{trace.zones.length} zones and {trace.plots.length} plots"
    log host ⟨.run, .info, s!"Decoded {found} from {path} ({rows.length} rows)"⟩
    pure trace

def alignmentRemarks (names? : Option MarkerNames) (resolution : Resolution) :
    List LogRecord :=
  let indexed : List LogRecord :=
    match names?, resolution.indexed? with
    | some names, some (viewer, layer) =>
      [⟨.alignment, .debug,
        s!"Indexed {viewer} viewer frames ({names.viewer}), {layer} layer frames ({names.layer})"⟩]
    | _, _ => []
  let warned : List LogRecord :=
    resolution.fallback?.toList.map fun fallback => ⟨.report, .warn, fallback.message⟩
  let aligned : List LogRecord := resolution.alignment.frame?.toList.map fun frame =>
    ⟨.alignment, .info,
      s!"Aligned on frame {frame.toInt}: layer shift {resolution.alignment.layerShift.toInt} ns"⟩
  indexed ++ warned ++ aligned

def mergeRemarks (merged : MergedTimeline) : List LogRecord :=
  let moved : List LogRecord := merged.normalization?.toList.map fun n =>
    let earliest := String.ofList (Layout.message.text n.earliest)
    ⟨.timeline, .debug,
      s!"Earliest event at {earliest} us, shifting timeline by {n.shift.toInt} ns"⟩
  moved ++ [⟨.run, .info,
    s!"Merged {merged.events.length} events (normalization shift {merged.shift.toInt} ns)"⟩]

/-- All the work of a run. -/
def merge (host : Host σ) (config : Config) : Run σ Unit := do
  requireContent host config.viewerTrace
  requireContent host config.layerTrace
  let viewer ← extract host config.viewerTrace
  update (·.recordViewer viewer)
  let layer ← extract host config.layerTrace
  update (·.recordLayer layer)
  let resolution := Resolution.ofTraces viewer layer config.markers?
  (alignmentRemarks config.markers? resolution).forM (log host)
  update (·.recordAlignment resolution)
  let weave := Weave.ofTraces viewer layer resolution.alignment.layerShift
  update (·.recordMerge weave.viewer weave.layer weave.merged)
  (mergeRemarks weave.merged).forM (log host)
  let document := (Interchange.ofEvents weave.merged.events).document .indented
  match ← ask (host.saveInterchange config.interchange document) with
  | .error error => throw (.output (error.causes .interchange))
  | .ok () => pure ()
  match ← ask (host.reencode config.interchange config.outputTrace) with
  | .error error => throw (.tool error)
  | .ok () => pure ()
  log host ⟨.run, .info, s!"Wrote merged trace to {config.outputTrace}"⟩

/-- Prints a failure, the output of a failed tool first. -/
def complain (host : Host σ) (captured : List String) (message : String) (state : σ) : σ :=
  (captured ++ ["Error: " ++ message ++ "\n"]).foldl
    (fun state text => (host.remark (.plain text) state).2) state

/-- The work of a run and the report that is to be written. -/
def attempt (host : Host σ) (config : Config) (state : σ) : Report × σ :=
  match merge host config ⟨state, .initial⟩ with
  | .ok () progress => ({ progress.report with success := true }, progress.state)
  | .error failure progress =>
    (progress.report.warn failure.message,
      complain host failure.captured failure.message progress.state)

/-- The whole run. A report that cannot be written is one of no success. -/
def perform (host : Host σ) (config : Config) (state : σ) : Report × σ :=
  let (report, state) := attempt host config state
  match host.saveReport config.summary report.text state with
  | (.ok (), state) => (report, state)
  | (.error error, state) =>
    ({ report with success := false }, complain host [] (error.message .report) state)

/-- The exit status that a report stands for. -/
def exitStatus (report : Report) : Nat := if report.success then 0 else 1

end Run

end TraceWeave
