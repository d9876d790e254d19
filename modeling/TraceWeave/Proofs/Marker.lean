import Mathlib.Data.List.Basic
import TraceWeave.Alignment

/-! The index of a marker knows the first plot of each frame (`time?_ofPlots`), and the frame that two
indices share is the least of those in both (`smallestShared?_eq_some_iff`). So an alignment on
markers comes from the first plots of one frame in both traces (`exists_of_ofTraces`). -/

namespace TraceWeave

namespace MarkerIndex

variable {name : String} {frame : Int64} {plots : List Plot} {index : MarkerIndex}

def marks (name : String) (frame : Int64) (plot : Plot) : Bool :=
  plot.name = name ∧ frameNumber? plot.value = some frame

/-- One more plot counts only for a frame that has no time yet. -/
theorem time?_add (name : String) (index : MarkerIndex) (plot : Plot) (frame : Int64) :
    (add name index plot).time? frame =
      (index.time? frame).or (if marks name frame plot then some plot.time else none) := by
  unfold add marks
  by_cases named : plot.name = name
  · rw [if_pos named]
    cases number : frameNumber? plot.value with
    | none => simp
    | some other =>
      rw [time?_note]
      by_cases same : other = frame
      · cases seen : index.time? frame <;> simp [named, same, seen]
      · simp [same]
  · simp [named]

theorem time?_foldl (plots : List Plot) (name : String) (index : MarkerIndex) (frame : Int64) :
    (plots.foldl (add name) index).time? frame =
      (index.time? frame).or ((plots.find? (marks name frame)).map (·.time)) := by
  induction plots generalizing index with
  | nil => simp
  | cons plot plots ih =>
    rw [List.foldl_cons, ih, time?_add, Option.or_assoc, List.find?_cons]
    cases marks name frame plot <;> simp

theorem time?_ofPlots (plots : List Plot) (name : String) (frame : Int64) :
    (ofPlots plots name).time? frame = (plots.find? (marks name frame)).map (·.time) := by
  have none : empty.time? frame = none := Std.ExtTreeMap.getElem?_empty
  rw [ofPlots, time?_foldl, none, Option.none_or]

theorem mem_frames_iff : frame ∈ index.frames ↔ (index.time? frame).isSome := by
  rw [frames, Std.ExtTreeMap.mem_keys, Std.ExtTreeMap.mem_iff_isSome_getElem?, time?]

theorem pairwise_frames (index : MarkerIndex) : index.frames.Pairwise (· < ·) := by
  refine Std.ExtTreeMap.ordered_keys.imp fun {a b} less => ?_
  exact Std.compare_eq_lt.mp less

/-- In ascending order, the first number of a kind is the least one. -/
theorem find?_eq_some_iff_of_pairwise {l : List Int64} {p : Int64 → Bool} {a : Int64}
    (ascending : l.Pairwise (· < ·)) :
    l.find? p = some a ↔ a ∈ l ∧ p a = true ∧ ∀ b ∈ l, p b = true → a ≤ b := by
  rw [List.find?_eq_some_iff_append]
  constructor
  · rintro ⟨kind, before, after, rfl, none⟩
    obtain ⟨-, later, -⟩ := List.pairwise_append.mp ascending
    refine ⟨by simp, kind, fun b mem other => ?_⟩
    rcases List.mem_append.mp mem with early | late
    · have notBefore := none b early
      rw [other] at notBefore
      cases notBefore
    · rcases List.mem_cons.mp late with rfl | late
      · exact Int64.le_refl _
      · exact Int64.le_of_lt (List.rel_of_pairwise_cons later late)
  · rintro ⟨mem, kind, least⟩
    obtain ⟨before, after, rfl⟩ := List.append_of_mem mem
    obtain ⟨-, -, apart⟩ := List.pairwise_append.mp ascending
    refine ⟨kind, before, after, rfl, fun b early => ?_⟩
    by_contra other
    have notAfter := least b (List.mem_append_left _ early) (by simpa using other)
    exact Int64.not_le.mpr (apart b early a List.mem_cons_self) notAfter

theorem smallestShared?_eq_some_iff {a b : MarkerIndex} :
    a.smallestShared? b = some frame ↔ (a.time? frame).isSome ∧ (b.time? frame).isSome ∧
      ∀ other, (a.time? other).isSome → (b.time? other).isSome → frame ≤ other := by
  rw [smallestShared?, find?_eq_some_iff_of_pairwise (pairwise_frames a)]
  simp only [mem_frames_iff]

theorem smallestShared?_eq_none_iff {a b : MarkerIndex} :
    a.smallestShared? b = none ↔ ∀ frame, (a.time? frame).isSome → ¬ (b.time? frame).isSome := by
  rw [smallestShared?, List.find?_eq_none]
  simp only [mem_frames_iff]

/-- Which frame is shared depends on the frames of the second index alone. -/
theorem smallestShared?_congr {a b c : MarkerIndex}
    (h : ∀ frame, (b.time? frame).isSome = (c.time? frame).isSome) :
    a.smallestShared? b = a.smallestShared? c := by
  simp only [smallestShared?, h]

theorem time?_of_smallestShared? {a b : MarkerIndex} (h : a.smallestShared? b = some frame) :
    (∃ t, a.time? frame = some t) ∧ ∃ t, b.time? frame = some t := by
  refine ⟨?_, ?_⟩
  · rw [← Option.isSome_iff_exists, ← mem_frames_iff]
    exact List.mem_of_find?_eq_some h
  · rw [← Option.isSome_iff_exists]
    exact List.find?_some (p := fun frame => (b.time? frame).isSome) h

end MarkerIndex

open MarkerIndex

def Trace.firstMarker? (trace : Trace) (name : String) (frame : Int64) : Option Plot :=
  trace.plots.find? (marks name frame)

namespace Resolution

variable {viewer layer : Trace} {names : MarkerNames} {frame shift : Int64} {p q : Plot}

theorem ofTraces_of_shared
    (shared : (ofPlots viewer.plots names.viewer).smallestShared?
      (ofPlots layer.plots names.layer) = some frame)
    (hp : viewer.firstMarker? names.viewer frame = some p)
    (hq : layer.firstMarker? names.layer frame = some q) :
    (ofTraces viewer layer (some names)).alignment =
      ⟨.frameMarker, some frame, Clamped.sub p.time q.time⟩ := by
  have viewerTime : (ofPlots viewer.plots names.viewer).time? frame = some p.time := by
    rw [time?_ofPlots, ← Trace.firstMarker?, hp, Option.map_some]
  have layerTime : (ofPlots layer.plots names.layer).time? frame = some q.time := by
    rw [time?_ofPlots, ← Trace.firstMarker?, hq, Option.map_some]
  simp [ofTraces, Alignment.ofMarkers?, shared, viewerTime, layerTime]

/-- An alignment on markers is made from the first samples of a frame that both traces have. -/
theorem exists_of_ofTraces
    (aligned : (ofTraces viewer layer (some names)).alignment = ⟨.frameMarker, some frame, shift⟩) :
    (ofPlots viewer.plots names.viewer).smallestShared? (ofPlots layer.plots names.layer) =
        some frame ∧
      ∃ p q, viewer.firstMarker? names.viewer frame = some p ∧
        layer.firstMarker? names.layer frame = some q ∧ shift = Clamped.sub p.time q.time := by
  cases shared : (ofPlots viewer.plots names.viewer).smallestShared?
      (ofPlots layer.plots names.layer) with
  | none => simp [ofTraces, Alignment.ofMarkers?, shared, Alignment.relativeTime] at aligned
  | some other =>
    obtain ⟨⟨_, viewerTime⟩, ⟨_, layerTime⟩⟩ := time?_of_smallestShared? shared
    rw [time?_ofPlots, Option.map_eq_some_iff] at viewerTime layerTime
    obtain ⟨p, hp, -⟩ := viewerTime
    obtain ⟨q, hq, -⟩ := layerTime
    have found := ofTraces_of_shared shared hp hq
    rw [aligned] at found
    simp only [Alignment.mk.injEq, Option.some.injEq, true_and] at found
    obtain ⟨rfl, rfl⟩ := found
    exact ⟨rfl, p, q, hp, hq, rfl⟩

end Resolution

end TraceWeave
