import TraceWeave.Proofs.Arithmetic

/-! The events of a merge, apart from their times.

A merge moves events in time and sorts them, so whatever an event says besides its time (`Timeless`)
is there as often as before. The names of threads all stand at time zero, where they keep their
order. With the threads of one trace in ascending order and each of them once, this accounts for all
events of a merge (`attributed_ofTraces`). -/

namespace TraceWeave

open Binary64

namespace Event

/-- The thread of a zone or a plot; the name of a thread is on none. -/
def track? : Event → Option (UInt32 × Int64)
  | .span _ process thread .. => some (process, thread)
  | .sample _ process thread .. => some (process, thread)
  | .threadName .. => none

def span? : Event → Option (String × UInt32 × Int64 × Binary64)
  | .span name process thread _ duration => some (name, process, thread, duration)
  | _ => none

def sample? : Event → Option (String × UInt32 × Int64 × Binary64)
  | .sample name process thread _ value => some (name, process, thread, value)
  | _ => none

def label? : Event → Option (UInt32 × Int64 × String)
  | .threadName process thread displayName => some (process, thread, displayName)
  | _ => none

/-- What `f` says of an event does not depend on its time. -/
def Timeless {α : Type} (f : Event → Option α) : Prop :=
  ∀ (delta : Binary64) (event : Event), f (event.delay delta) = f event

theorem timeless_track? : Timeless track? := by
  intro delta event
  cases event <;> rfl

theorem timeless_span? : Timeless span? := by
  intro delta event
  cases event <;> rfl

theorem timeless_sample? : Timeless sample? := by
  intro delta event
  cases event <;> rfl

theorem timeless_label? : Timeless label? := by
  intro delta event
  cases event <;> rfl

end Event

namespace Timeline

variable {trace : Trace} {process : UInt32} {shift thread : Int64} {role : String}

theorem pairwise_threadsOf (trace : Trace) : (threadsOf trace).Pairwise (· < ·) := by
  refine Std.ExtTreeSet.ordered_toList.imp fun {a b} less => ?_
  exact Std.compare_eq_lt.mp less

theorem mem_threadsOf : thread ∈ threadsOf trace ↔
    (∃ zone ∈ trace.zones, zone.thread = thread) ∨ ∃ plot ∈ trace.plots, plot.thread = thread := by
  rw [threadsOf, Std.ExtTreeSet.mem_toList, Std.ExtTreeSet.mem_ofList, List.contains_iff_mem,
    List.mem_append, List.mem_map, List.mem_map]

theorem filterMap_ofTrace {α : Type} (f : Event → Option α) :
    (ofTrace trace process shift role).events.filterMap f =
      trace.zones.filterMap (fun zone => f (spanOf process shift zone)) ++
        trace.plots.filterMap (fun plot => f (sampleOf process shift plot)) ++
          (threadsOf trace).filterMap fun thread => f (threadNameOf process role thread) := by
  simp only [ofTrace, List.filterMap_append, List.filterMap_map]
  rfl

theorem spans_ofTrace : (ofTrace trace process shift role).events.filterMap Event.span? =
    trace.zones.map fun zone =>
      (zone.name, process, zone.thread, (ofInt zone.duration.toInt).scale 1 1000) := by
  rw [filterMap_ofTrace]
  simp [spanOf, sampleOf, threadNameOf, Event.span?, microseconds]

theorem samples_ofTrace : (ofTrace trace process shift role).events.filterMap Event.sample? =
    trace.plots.map fun plot => (plot.name, process, plot.thread, plot.value) := by
  rw [filterMap_ofTrace]
  simp [spanOf, sampleOf, threadNameOf, Event.sample?]

theorem labels_ofTrace : (ofTrace trace process shift role).events.filterMap Event.label? =
    (threadsOf trace).map fun thread =>
      (process, thread, role ++ "-thread-" ++ toString thread.toInt) := by
  rw [filterMap_ofTrace]
  simp [spanOf, sampleOf, threadNameOf, Event.label?]

theorem mem_tracks_ofTrace {p : UInt32} :
    (p, thread) ∈ (ofTrace trace process shift role).events.filterMap Event.track? ↔
      p = process ∧ thread ∈ threadsOf trace := by
  rw [filterMap_ofTrace, mem_threadsOf]
  simp only [spanOf, sampleOf, threadNameOf, Event.track?, List.filterMap_eq_map',
    List.filterMap_none, List.append_nil, List.mem_append, List.mem_map, Prod.mk.injEq]
  constructor
  · rintro (⟨zone, mem, rfl, rfl⟩ | ⟨plot, mem, rfl, rfl⟩)
    · exact ⟨rfl, .inl ⟨zone, mem, rfl⟩⟩
    · exact ⟨rfl, .inr ⟨plot, mem, rfl⟩⟩
  · rintro ⟨rfl, ⟨zone, mem, rfl⟩ | ⟨plot, mem, rfl⟩⟩
    · exact .inl ⟨zone, mem, rfl, rfl⟩
    · exact .inr ⟨plot, mem, rfl, rfl⟩

theorem length_ofTrace (trace : Trace) (process : UInt32) (shift : Int64) (role : String) :
    (ofTrace trace process shift role).events.length =
      trace.zones.length + trace.plots.length + (threadsOf trace).length := by
  simp only [ofTrace, List.length_append, List.length_map]

end Timeline

namespace MergedTimeline

variable {α : Type} {viewer layer : List Event} {f : Event → Option α}

theorem timeless_place (timeless : Event.Timeless f) (merged : MergedTimeline) (event : Event) :
    f (merged.place event) = f event := by
  unfold place
  split
  case h_1 n _ => exact timeless _ event
  case h_2 => rfl

theorem length_events (viewer layer : List Event) :
    (ofEvents viewer layer).events.length = viewer.length + layer.length := by
  rw [events_ofEvents, List.length_mergeSort, List.length_map, List.length_append]

theorem perm_filterMap (timeless : Event.Timeless f) (viewer layer : List Event) :
    ((ofEvents viewer layer).events.filterMap f).Perm ((viewer ++ layer).filterMap f) := by
  have placed : ((viewer ++ layer).map (ofEvents viewer layer).place).filterMap f =
      (viewer ++ layer).filterMap f := by
    rw [List.filterMap_map]
    exact List.filterMap_congr fun event _ => timeless_place timeless _ event
  rw [events_ofEvents, ← placed]
  exact (List.mergeSort_perm _ _).filterMap f

/-- Events without a time stay in order. -/
theorem filterMap_eq (timeless : Event.Timeless f)
    (untimed : ∀ event, (f event).isSome → event.time? = none)
    (finite : ∀ event ∈ viewer ++ layer,
      (sortTime ((ofEvents viewer layer).place event)).isFinite = true) :
    (ofEvents viewer layer).events.filterMap f = (viewer ++ layer).filterMap f := by
  -- all that `f` finds is among the events that are sorted as zero
  have atZero (events : List Event) :
      events.filterMap f = (events.filter (sortUnits · = 0)).filterMap f := by
    rw [List.filterMap_filter]
    refine List.filterMap_congr fun event _ => ?_
    cases found : f event with
    | none => simp
    | some a =>
      have zero : sortUnits event = 0 := by
        rw [sortUnits, sortTime, untimed event (by rw [found]; rfl)]
        rfl
      simp [zero]
  rw [atZero, events_ofEvents_eq finite, StableSort.filter_mergeSort_byKey, ← atZero,
    List.filterMap_map]
  exact List.filterMap_congr fun event _ => timeless_place timeless _ event

end MergedTimeline

/-- What the events of a merge are, apart from their times: a span for each zone and a sample for
each plot, and one name for each thread that these are on. -/
structure Attributed (viewer layer : Trace) (events : List Event) : Prop where
  spans : (events.filterMap Event.span?).Perm
    ((viewer.zones.map fun zone =>
        (zone.name, viewerProcess, zone.thread, (ofInt zone.duration.toInt).scale 1 1000)) ++
      layer.zones.map fun zone =>
        (zone.name, layerProcess, zone.thread, (ofInt zone.duration.toInt).scale 1 1000))
  durations : ∀ zone ∈ viewer.zones ++ layer.zones,
    IsMicroseconds zone.duration.toInt ((ofInt zone.duration.toInt).scale 1 1000)
  samples : (events.filterMap Event.sample?).Perm
    ((viewer.plots.map fun plot => (plot.name, viewerProcess, plot.thread, plot.value)) ++
      layer.plots.map fun plot => (plot.name, layerProcess, plot.thread, plot.value))
  /-- The names of the viewer's threads are in front of those of the layer's, each thread after all
  threads of lower number. So no thread has two names. -/
  ordered : (events.filterMap Event.label?).Pairwise fun a b =>
    a.1 < b.1 ∨ a.1 = b.1 ∧ a.2.1 < b.2.1
  labelled (process : UInt32) (thread : Int64) (displayName : String) :
    (process, thread, displayName) ∈ events.filterMap Event.label? ↔
      (process, thread) ∈ events.filterMap Event.track? ∧
        (process = viewerProcess ∧ displayName = "viewer-thread-" ++ toString thread.toInt ∨
          process = layerProcess ∧ displayName = "layer-thread-" ++ toString thread.toInt)

theorem Weave.labels_ofTraces (viewer layer : Trace) (layerShift : Int64) :
    (ofTraces viewer layer layerShift).merged.events.filterMap Event.label? =
      ((Timeline.threadsOf viewer).map fun thread =>
          (viewerProcess, thread, "viewer-thread-" ++ toString thread.toInt)) ++
        (Timeline.threadsOf layer).map fun thread =>
          (layerProcess, thread, "layer-thread-" ++ toString thread.toInt) := by
  have untimed (event : Event) (label : event.label?.isSome) : event.time? = none := by
    cases event with
    | span => cases label
    | sample => cases label
    | threadName => rfl
  have times := Timeline.filterMap_time?_append viewer layer layerShift viewerRole layerRole
  simp only [ofTraces]
  rw [MergedTimeline.filterMap_eq Event.timeless_label? untimed
    fun event mem => MergedTimeline.isFinite_sortTime_place times mem, List.filterMap_append,
    Timeline.labels_ofTrace, Timeline.labels_ofTrace]
  rfl

theorem Weave.mem_tracks_ofTraces {viewer layer : Trace} {layerShift thread : Int64}
    {process : UInt32} :
    (process, thread) ∈ (ofTraces viewer layer layerShift).merged.events.filterMap Event.track? ↔
      process = viewerProcess ∧ thread ∈ Timeline.threadsOf viewer ∨
        process = layerProcess ∧ thread ∈ Timeline.threadsOf layer := by
  simp only [ofTraces]
  rw [(MergedTimeline.perm_filterMap Event.timeless_track? _ _).mem_iff, List.filterMap_append,
    List.mem_append, Timeline.mem_tracks_ofTrace, Timeline.mem_tracks_ofTrace]

theorem Weave.length_ofTraces (viewer layer : Trace) (layerShift : Int64) :
    (ofTraces viewer layer layerShift).merged.events.length =
      viewer.zones.length + viewer.plots.length + layer.zones.length + layer.plots.length +
        (Timeline.threadsOf viewer).length + (Timeline.threadsOf layer).length := by
  simp only [ofTraces, MergedTimeline.length_events, Timeline.length_ofTrace]
  omega

/-- Whatever the two traces and the shift of the layer, nothing is lost or given to another
process in the merge. -/
theorem attributed_ofTraces (viewer layer : Trace) (layerShift : Int64) :
    Attributed viewer layer (Weave.ofTraces viewer layer layerShift).merged.events where
  spans := by
    have kept := MergedTimeline.perm_filterMap Event.timeless_span?
      (Timeline.ofTrace viewer viewerProcess 0 viewerRole).events
      (Timeline.ofTrace layer layerProcess layerShift layerRole).events
    rwa [List.filterMap_append, Timeline.spans_ofTrace, Timeline.spans_ofTrace] at kept
  durations zone _ := isMicroseconds zone.duration
  samples := by
    have kept := MergedTimeline.perm_filterMap Event.timeless_sample?
      (Timeline.ofTrace viewer viewerProcess 0 viewerRole).events
      (Timeline.ofTrace layer layerProcess layerShift layerRole).events
    rwa [List.filterMap_append, Timeline.samples_ofTrace, Timeline.samples_ofTrace] at kept
  ordered := by
    rw [Weave.labels_ofTraces, List.pairwise_append, List.pairwise_map, List.pairwise_map]
    refine ⟨?_, ?_, ?_⟩
    · exact (Timeline.pairwise_threadsOf viewer).imp fun less => .inr ⟨rfl, less⟩
    · exact (Timeline.pairwise_threadsOf layer).imp fun less => .inr ⟨rfl, less⟩
    · intro a first b second
      obtain ⟨_, _, rfl⟩ := List.mem_map.mp first
      obtain ⟨_, _, rfl⟩ := List.mem_map.mp second
      left
      show viewerProcess < layerProcess
      decide
  labelled process thread displayName := by
    rw [Weave.labels_ofTraces, Weave.mem_tracks_ofTraces, List.mem_append, List.mem_map,
      List.mem_map]
    constructor
    · rintro (⟨_, mem, ⟨⟩⟩ | ⟨_, mem, ⟨⟩⟩)
      · exact ⟨.inl ⟨rfl, mem⟩, .inl ⟨rfl, rfl⟩⟩
      · exact ⟨.inr ⟨rfl, mem⟩, .inr ⟨rfl, rfl⟩⟩
    · have distinct : viewerProcess ≠ layerProcess := by decide
      rintro ⟨⟨rfl, mem⟩ | ⟨rfl, mem⟩, ⟨same, rfl⟩ | ⟨same, rfl⟩⟩
      · exact .inl ⟨thread, mem, rfl⟩
      · exact absurd same distinct
      · exact absurd same.symm distinct
      · exact .inr ⟨thread, mem, rfl⟩

end TraceWeave
