import Mathlib.Order.Bounds.Basic
import TraceWeave.Proofs.Clock
import TraceWeave.Proofs.Frame
import TraceWeave.Proofs.Outcome

/-! What two traces are aligned on, said of their samples alone.

The frames that both traces show make up a set, whatever the order of the samples and however often
a frame is repeated. The alignment is on the least frame of this set, and without one on raw times;
the report takes it over and keeps all else (`alignment_resolved`). -/

namespace TraceWeave

open Clamped MarkerIndex

/-- The plot is a sample of the marker `name` whose value rounds to the frame. -/
def Plot.Stamps (name : String) (frame : Int) (plot : Plot) : Prop :=
  plot.name = name ∧ plot.value.RoundsTo frame

namespace Trace

/-- The 64-bit numbers that samples of both markers round to. -/
def sharedFrames (viewer layer : Trace) (names : MarkerNames) : Set Int :=
  {frame | InRange frame ∧ (∃ plot ∈ viewer.plots, plot.Stamps names.viewer frame) ∧
    ∃ plot ∈ layer.plots, plot.Stamps names.layer frame}

def FirstStamp (trace : Trace) (name : String) (frame : Int) (plot : Plot) : Prop :=
  ∃ before after, trace.plots = before ++ plot :: after ∧ plot.Stamps name frame ∧
    ∀ other ∈ before, ¬ other.Stamps name frame

end Trace

def Report.realigned (report : Report) (alignment : Alignment) (warnings : List String) : Report :=
  { report with alignment := alignment, warnings := report.warnings ++ warnings }

variable {viewer layer trace : Trace} {names : MarkerNames} {name : String} {frame : Int64}
  {plot : Plot} {plots : List Plot}

theorem marks_iff : marks name frame plot = true ↔ plot.Stamps name frame.toInt := by
  rw [marks, decide_eq_true_eq, frameNumber?_eq_some_iff, Plot.Stamps]

theorem isSome_time?_ofPlots :
    ((ofPlots plots name).time? frame).isSome ↔ ∃ plot ∈ plots, plot.Stamps name frame.toInt := by
  rw [time?_ofPlots, Option.isSome_map, List.find?_isSome]
  simp only [marks_iff]

theorem firstMarker?_eq_some_iff :
    trace.firstMarker? name frame = some plot ↔ trace.FirstStamp name frame.toInt plot := by
  rw [Trace.firstMarker?, List.find?_eq_some_iff_append, marks_iff, Trace.FirstStamp]
  simp only [Bool.not_eq_true', ← Bool.not_eq_true, marks_iff]
  constructor
  · rintro ⟨stamps, before, after, split, none⟩
    exact ⟨before, after, split, stamps, none⟩
  · rintro ⟨before, after, split, stamps, none⟩
    exact ⟨stamps, before, after, split, none⟩

theorem toInt_mem_sharedFrames : frame.toInt ∈ viewer.sharedFrames layer names ↔
    ((ofPlots viewer.plots names.viewer).time? frame).isSome ∧
      ((ofPlots layer.plots names.layer).time? frame).isSome := by
  rw [isSome_time?_ofPlots, isSome_time?_ofPlots]
  exact and_iff_right ⟨frame.minValue_le_toInt, frame.toInt_le⟩

theorem exists_toInt_eq {f : Int} (h : f ∈ viewer.sharedFrames layer names) :
    ∃ frame : Int64, frame.toInt = f :=
  ⟨Int64.ofInt f, toInt_ofInt_of_inRange h.1⟩

theorem smallestShared?_eq_some_iff_isLeast :
    (ofPlots viewer.plots names.viewer).smallestShared? (ofPlots layer.plots names.layer) =
      some frame ↔ IsLeast (viewer.sharedFrames layer names) frame.toInt := by
  rw [smallestShared?_eq_some_iff, ← and_assoc, ← toInt_mem_sharedFrames]
  refine and_congr_right fun _ => ⟨fun least f mem => ?_, fun least other hv hl => ?_⟩
  · obtain ⟨other, rfl⟩ := exists_toInt_eq mem
    obtain ⟨hv, hl⟩ := toInt_mem_sharedFrames.mp mem
    exact Int64.le_iff_toInt_le.mp (least other hv hl)
  · exact Int64.le_iff_toInt_le.mpr (least (toInt_mem_sharedFrames.mpr ⟨hv, hl⟩))

theorem smallestShared?_eq_none_iff_empty :
    (ofPlots viewer.plots names.viewer).smallestShared? (ofPlots layer.plots names.layer) =
      none ↔ viewer.sharedFrames layer names = ∅ := by
  rw [smallestShared?_eq_none_iff, Set.eq_empty_iff_forall_notMem]
  refine ⟨fun none f mem => ?_, fun empty frame hv hl => ?_⟩
  · obtain ⟨frame, rfl⟩ := exists_toInt_eq mem
    obtain ⟨hv, hl⟩ := toInt_mem_sharedFrames.mp mem
    exact none frame hv hl
  · exact empty _ (toInt_mem_sharedFrames.mpr ⟨hv, hl⟩)

namespace Resolution

theorem exists_of_nonempty (shared : (viewer.sharedFrames layer names).Nonempty) :
    ∃ frame p q, IsLeast (viewer.sharedFrames layer names) frame.toInt ∧
      viewer.FirstStamp names.viewer frame.toInt p ∧ layer.FirstStamp names.layer frame.toInt q ∧
      (ofTraces viewer layer (some names)).alignment =
        ⟨.frameMarker, some frame, sub p.time q.time⟩ ∧
      (ofTraces viewer layer (some names)).fallback? = none := by
  cases found : (ofPlots viewer.plots names.viewer).smallestShared?
      (ofPlots layer.plots names.layer) with
  | none => exact absurd (smallestShared?_eq_none_iff_empty.mp found) shared.ne_empty
  | some frame =>
    obtain ⟨hv, hl⟩ := toInt_mem_sharedFrames.mp (smallestShared?_eq_some_iff_isLeast.mp found).1
    rw [time?_ofPlots, Option.isSome_map, Option.isSome_iff_exists] at hv hl
    obtain ⟨⟨p, hp⟩, q, hq⟩ := hv, hl
    have aligned := ofTraces_of_shared found hp hq
    refine ⟨frame, p, q, smallestShared?_eq_some_iff_isLeast.mp found,
      firstMarker?_eq_some_iff.mp hp, firstMarker?_eq_some_iff.mp hq, aligned, ?_⟩
    rcases ofTraces_cases viewer layer (some names) with ⟨_, _, _, unsaid⟩ | ⟨raw, _⟩
    · exact unsaid
    · rw [raw] at aligned
      cases aligned

theorem ofTraces_of_empty (none : viewer.sharedFrames layer names = ∅) :
    (ofTraces viewer layer (some names)).alignment = .relativeTime ∧
      (ofTraces viewer layer (some names)).fallback? = some .noCommonFrame := by
  have found := smallestShared?_eq_none_iff_empty.mpr none
  simp [ofTraces, Alignment.ofMarkers?, found]

end Resolution

theorem Report.recordAlignment_eq (report : Report) (resolution : Resolution) :
    report.recordAlignment resolution = report.realigned resolution.alignment
      (resolution.fallback?.toList.map Fallback.message) := by
  unfold recordAlignment realigned warn
  cases resolution.fallback? <;> simp

/-- Two traces are aligned on the least frame that both show, by the first sample of it in each: the
shift is the difference of the two times, stopped at the ends of the 64-bit range. When they share
no frame, or no markers are given, raw times are compared, with one warning that says why. A report
takes over the result, whatever it said before, and all else in it stays. -/
theorem alignment_resolved (viewer layer : Trace) (report : Report) :
    (∀ names : MarkerNames,
      let resolution := Resolution.ofTraces viewer layer (some names)
      let shared := viewer.sharedFrames layer names
      (shared.Nonempty → ∃ frame p q shift, IsLeast shared frame.toInt ∧
        viewer.FirstStamp names.viewer frame.toInt p ∧
        layer.FirstStamp names.layer frame.toInt q ∧
        shift.toInt = max (-2 ^ 63) (min (p.time.toInt - q.time.toInt) (2 ^ 63 - 1)) ∧
        resolution.alignment = ⟨.frameMarker, some frame, shift⟩ ∧
        report.recordAlignment resolution =
          report.realigned ⟨.frameMarker, some frame, shift⟩ []) ∧
      (shared = ∅ → resolution.alignment = ⟨.relativeTime, none, 0⟩ ∧
        report.recordAlignment resolution = report.realigned ⟨.relativeTime, none, 0⟩
          ["No common frame marker values found across traces; using relative-time fallback."])) ∧
    let resolution := Resolution.ofTraces viewer layer none
    resolution.alignment = ⟨.relativeTime, none, 0⟩ ∧
      report.recordAlignment resolution = report.realigned ⟨.relativeTime, none, 0⟩
        ["Marker alignment disabled; using relative-time fallback."] := by
  refine ⟨fun names => ⟨fun some => ?_, fun none => ?_⟩, rfl, ?_⟩
  · obtain ⟨frame, p, q, least, first, first', aligned, unsaid⟩ :=
      Resolution.exists_of_nonempty some
    refine ⟨frame, p, q, _, least, first, first', toInt_sub p.time q.time, aligned, ?_⟩
    rw [Report.recordAlignment_eq, aligned, unsaid]
    rfl
  · obtain ⟨raw, said⟩ := Resolution.ofTraces_of_empty none
    refine ⟨raw, ?_⟩
    rw [Report.recordAlignment_eq, raw, said]
    rfl
  · rw [Report.recordAlignment_eq]
    rfl

/-- Frames out of order and repeated, and times as far apart as can be. Under one name for both
markers, nothing is shared. -/
theorem alignment_resolved_apart :
    let viewer : Trace := ⟨[], [⟨"frame", 10, .ofInt 3, 1⟩, ⟨"frame", Int64.minValue, .ofInt 2, 1⟩,
      ⟨"frame", 7, .ofInt 2, 1⟩]⟩
    let layer : Trace := ⟨[], [⟨"stamp", Int64.maxValue, .ofInt 2, 1⟩, ⟨"stamp", 1, .ofInt 3, 1⟩]⟩
    (viewer.sharedFrames layer ⟨"frame", "stamp"⟩).Nonempty ∧
      viewer.sharedFrames layer ⟨"frame", "frame"⟩ = ∅ ∧
      (∃ frame p q shift, IsLeast (viewer.sharedFrames layer ⟨"frame", "stamp"⟩) frame.toInt ∧
        viewer.FirstStamp "frame" frame.toInt p ∧ layer.FirstStamp "stamp" frame.toInt q ∧
        (Resolution.ofTraces viewer layer (some ⟨"frame", "stamp"⟩)).alignment =
          ⟨.frameMarker, some frame, shift⟩) ∧
      (Resolution.ofTraces viewer layer (some ⟨"frame", "frame"⟩)).alignment =
        ⟨.relativeTime, none, 0⟩ := by
  intro viewer layer
  have shared : (viewer.sharedFrames layer ⟨"frame", "stamp"⟩).Nonempty :=
    ⟨(2 : Int64).toInt, toInt_mem_sharedFrames.mpr ⟨by decide +kernel, by decide +kernel⟩⟩
  have none : viewer.sharedFrames layer ⟨"frame", "frame"⟩ = ∅ := by
    simp [Trace.sharedFrames, Plot.Stamps, layer]
  have resolved := (alignment_resolved viewer layer .initial).1
  obtain ⟨frame, p, q, shift, least, first, first', -, aligned, -⟩ :=
    (resolved ⟨"frame", "stamp"⟩).1 shared
  exact ⟨shared, none, ⟨frame, p, q, shift, least, first, first', aligned⟩,
    ((resolved ⟨"frame", "frame"⟩).2 none).1⟩

end TraceWeave
