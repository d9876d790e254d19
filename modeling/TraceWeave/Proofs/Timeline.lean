import TraceWeave.Proofs.Microseconds
import TraceWeave.Run

/-! The events of one trace. Their times are the shifted times of the trace in microseconds, zones
before plots, and all of them belong to the process that the timeline was made for. -/

namespace TraceWeave

def Trace.times (trace : Trace) : List Int64 :=
  trace.zones.map (·.start) ++ trace.plots.map (·.time)

/-- The times of a trace after a shift that stops at the ends of the 64-bit range. -/
def Trace.shiftedTimes (trace : Trace) (shift : Int64) : List Int64 :=
  trace.times.map (Clamped.add · shift)

def Event.Finite : Event → Prop
  | .span _ _ _ start duration => start.isFinite = true ∧ duration.isFinite = true
  | .sample _ _ _ time value => time.isFinite = true ∧ value.isFinite = true
  | .threadName .. => True

theorem Event.finite_delay {event : Event} {delta : Binary64} (finite : event.Finite)
    (time : ∀ x, (event.delay delta).time? = some x → x.isFinite = true) :
    (event.delay delta).Finite := by
  cases event with
  | span => exact ⟨time _ rfl, finite.2⟩
  | sample => exact ⟨time _ rfl, finite.2⟩
  | threadName => trivial

namespace Timeline

variable {trace : Trace} {process : UInt32} {shift : Int64} {role : String} {event : Event}

@[simp]
theorem time?_spanOf (process : UInt32) (shift : Int64) (zone : Zone) :
    (spanOf process shift zone).time? = some (microseconds (Clamped.add zone.start shift)) := rfl

@[simp]
theorem time?_sampleOf (process : UInt32) (shift : Int64) (plot : Plot) :
    (sampleOf process shift plot).time? = some (microseconds (Clamped.add plot.time shift)) := rfl

@[simp]
theorem time?_threadNameOf (process : UInt32) (role : String) (thread : Int64) :
    (threadNameOf process role thread).time? = none := rfl

theorem mem_ofTrace : event ∈ (ofTrace trace process shift role).events ↔
    (∃ zone ∈ trace.zones, spanOf process shift zone = event) ∨
      (∃ plot ∈ trace.plots, sampleOf process shift plot = event) ∨
        ∃ thread ∈ threadsOf trace, threadNameOf process role thread = event := by
  simp only [ofTrace, List.mem_append, List.mem_map, or_assoc]

theorem filterMap_time?_ofTrace (trace : Trace) (process : UInt32) (shift : Int64) (role : String) :
    (ofTrace trace process shift role).events.filterMap Event.time? =
      (trace.shiftedTimes shift).map microseconds := by
  have names : ((threadsOf trace).map (threadNameOf process role)).filterMap Event.time? = [] := by
    rw [List.filterMap_map, List.filterMap_eq_nil_iff]
    intro thread _
    exact time?_threadNameOf ..
  simp only [ofTrace, List.filterMap_append, names, List.append_nil, List.filterMap_map,
    Function.comp_def, time?_spanOf, time?_sampleOf, List.filterMap_eq_map', Trace.shiftedTimes,
    Trace.times, List.map_append, List.map_map]

theorem filterMap_time?_append (viewer layer : Trace) (layerShift : Int64)
    (viewerName layerName : String) :
    ((ofTrace viewer viewerProcess 0 viewerName).events ++
        (ofTrace layer layerProcess layerShift layerName).events).filterMap Event.time? =
      (viewer.shiftedTimes 0 ++ layer.shiftedTimes layerShift).map microseconds := by
  rw [List.filterMap_append, filterMap_time?_ofTrace, filterMap_time?_ofTrace, List.map_append]

theorem process_of_mem (h : event ∈ (ofTrace trace process shift role).events) :
    event.process = process := by
  rcases mem_ofTrace.mp h with ⟨zone, _, rfl⟩ | ⟨plot, _, rfl⟩ | ⟨thread, _, rfl⟩ <;> rfl

theorem finite_of_mem (values : ∀ plot ∈ trace.plots, plot.value.isFinite = true)
    (h : event ∈ (ofTrace trace process shift role).events) : event.Finite := by
  rcases mem_ofTrace.mp h with ⟨zone, _, rfl⟩ | ⟨plot, hp, rfl⟩ | ⟨thread, _, rfl⟩
  · exact ⟨isFinite_microseconds _, isFinite_microseconds _⟩
  · exact ⟨isFinite_microseconds _, values plot hp⟩
  · trivial

end Timeline

end TraceWeave
