import TraceWeave.Proofs.Marker
import TraceWeave.Proofs.Normalization

/-! What an alignment on markers does to the two clocks.

The origin of the layer's clock has no influence on the merged timeline (`weave_delayed`): another
origin changes the shift by just that much. And the two samples that the alignment was made from
get the same time, the viewer's sample coming first (`markers_coincide`). -/

namespace TraceWeave

namespace Clamped

def InRange (n : Int) : Prop := Int64.minValue.toInt ≤ n ∧ n ≤ Int64.maxValue.toInt

instance (n : Int) : Decidable (InRange n) := inferInstanceAs (Decidable (_ ∧ _))

variable {a b : Int64} {n : Int}

theorem toInt_ofInt_of_inRange (h : InRange n) : (Int64.ofInt n).toInt = n := by
  have high : Int64.maxValue.toInt = 9223372036854775807 := by decide
  exact Int64.toInt_ofInt_of_le h.1 (by have := h.2; omega)

theorem toInt_sub_of_inRange (h : InRange (a.toInt - b.toInt)) :
    (sub a b).toInt = a.toInt - b.toInt := by
  obtain ⟨low, high⟩ := h
  rw [toInt_sub]
  omega

theorem add_sub_cancel (h : InRange (a.toInt - b.toInt)) : add b (sub a b) = a := by
  have low := a.minValue_le_toInt
  have high := a.toInt_le
  rw [← Int64.toInt_inj, toInt_add, toInt_sub_of_inRange h]
  omega

theorem add_zero (a : Int64) : add a 0 = a := by
  have low := a.minValue_le_toInt
  have high := a.toInt_le
  rw [← Int64.toInt_inj, toInt_add, Int64.toInt_zero]
  omega

theorem add_ofInt {t s s' : Int64} {c : Int} (h : InRange (t.toInt + c))
    (shifts : s'.toInt = s.toInt - c) : add (Int64.ofInt (t.toInt + c)) s' = add t s := by
  rw [← Int64.toInt_inj, toInt_add, toInt_add, toInt_ofInt_of_inRange h, shifts]
  congr 2
  omega

end Clamped

open Clamped

/-- The plot on a clock that began `c` nanoseconds earlier. -/
def Plot.delayed (c : Int) (plot : Plot) : Plot :=
  { plot with time := Int64.ofInt (plot.time.toInt + c) }

def Zone.delayed (c : Int) (zone : Zone) : Zone :=
  { zone with start := Int64.ofInt (zone.start.toInt + c) }

def Trace.delayed (c : Int) (trace : Trace) : Trace :=
  ⟨trace.zones.map (Zone.delayed c), trace.plots.map (Plot.delayed c)⟩

variable {viewer layer trace : Trace} {names : MarkerNames} {frame shift shift' : Int64} {c : Int}
  {p q : Plot}

theorem firstMarker?_delayed (trace : Trace) (c : Int) (name : String) (frame : Int64) :
    (trace.delayed c).firstMarker? name frame =
      (trace.firstMarker? name frame).map (Plot.delayed c) := by
  have same : MarkerIndex.marks name frame ∘ Plot.delayed c = MarkerIndex.marks name frame := rfl
  rw [Trace.firstMarker?, Trace.delayed, List.find?_map, same, Trace.firstMarker?]

theorem threadsOf_delayed (trace : Trace) (c : Int) :
    Timeline.threadsOf (trace.delayed c) = Timeline.threadsOf trace := by
  simp [Timeline.threadsOf, Trace.delayed, Zone.delayed, Plot.delayed, Function.comp_def]

/-- A trace and its delayed copy have the same timeline when the shift makes up for the delay. -/
theorem ofTrace_delayed (process : UInt32) (role : String)
    (times : ∀ t ∈ trace.times, InRange (t.toInt + c)) (shifts : shift'.toInt = shift.toInt - c) :
    Timeline.ofTrace (trace.delayed c) process shift' role =
      Timeline.ofTrace trace process shift role := by
  have zones : (trace.delayed c).zones.map (Timeline.spanOf process shift') =
      trace.zones.map (Timeline.spanOf process shift) := by
    rw [Trace.delayed, List.map_map]
    refine List.map_congr_left fun zone hz => ?_
    have inRange := times zone.start (List.mem_append_left _ (List.mem_map_of_mem hz))
    simp only [Function.comp_apply, Timeline.spanOf, Zone.delayed, add_ofInt inRange shifts]
  have plots : (trace.delayed c).plots.map (Timeline.sampleOf process shift') =
      trace.plots.map (Timeline.sampleOf process shift) := by
    rw [Trace.delayed, List.map_map]
    refine List.map_congr_left fun plot hp => ?_
    have inRange := times plot.time (List.mem_append_right _ (List.mem_map_of_mem hp))
    simp only [Function.comp_apply, Timeline.sampleOf, Plot.delayed, add_ofInt inRange shifts]
  simp only [Timeline.ofTrace, threadsOf_delayed, zones, plots]

/-- The merged timeline does not depend on where the layer's clock began. The same frame is
chosen, and the shift of the layer takes up the difference of the two origins. -/
theorem weave_delayed
    (aligned : (Resolution.ofTraces viewer layer (some names)).alignment =
      ⟨.frameMarker, some frame, shift⟩)
    (hp : viewer.firstMarker? names.viewer frame = some p)
    (hq : layer.firstMarker? names.layer frame = some q)
    (times : ∀ t ∈ layer.times, InRange (t.toInt + c))
    (fits : InRange (p.time.toInt - q.time.toInt))
    (fits' : InRange (p.time.toInt - (q.time.toInt + c))) :
    ∃ shift', (Resolution.ofTraces viewer (layer.delayed c) (some names)).alignment =
        ⟨.frameMarker, some frame, shift'⟩ ∧
      shift'.toInt = shift.toInt - c ∧
      Weave.ofTraces viewer (layer.delayed c) shift' = Weave.ofTraces viewer layer shift := by
  obtain ⟨shared, p', q', hp', hq', rfl⟩ := Resolution.exists_of_ofTraces aligned
  obtain rfl : p = p' := Option.some.inj (hp.symm.trans hp')
  obtain rfl : q = q' := Option.some.inj (hq.symm.trans hq')
  have inRange : InRange (q.time.toInt + c) := times q.time
    (List.mem_append_right _ (List.mem_map_of_mem (List.mem_of_find?_eq_some hq)))
  have moved : (layer.delayed c).firstMarker? names.layer frame = some (q.delayed c) := by
    rw [firstMarker?_delayed, hq, Option.map_some]
  have sameFrame : (MarkerIndex.ofPlots viewer.plots names.viewer).smallestShared?
      (MarkerIndex.ofPlots (layer.delayed c).plots names.layer) = some frame := by
    rw [← shared]
    refine MarkerIndex.smallestShared?_congr fun f => ?_
    have := firstMarker?_delayed layer c names.layer f
    rw [MarkerIndex.time?_ofPlots, MarkerIndex.time?_ofPlots, ← Trace.firstMarker?,
      ← Trace.firstMarker?, this, Option.isSome_map, Option.isSome_map, Option.isSome_map]
  have delayedTime : (q.delayed c).time.toInt = q.time.toInt + c := toInt_ofInt_of_inRange inRange
  have shifts : (sub p.time (q.delayed c).time).toInt = (sub p.time q.time).toInt - c := by
    rw [toInt_sub_of_inRange fits, toInt_sub_of_inRange (by rwa [delayedTime]), delayedTime]
    omega
  refine ⟨_, Resolution.ofTraces_of_shared sameFrame hp moved, shifts, ?_⟩
  rw [Weave.ofTraces, Weave.ofTraces, ofTrace_delayed layerProcess layerRole times shifts]

/-- A trace of two threads, in which frame 3 comes before frame 2 and frame 2 comes twice. -/
def Trace.stamped (name : String) (time : Int64) : Trace :=
  ⟨[⟨"draw", time - 1000, 400, 1⟩],
    [⟨name, time - 200, .ofInt 3, 2⟩, ⟨"load", time, .ofInt 2, 1⟩, ⟨name, time, .ofInt 2, 2⟩,
      ⟨name, time + 300, .ofInt 2, 1⟩]⟩

/-- A layer whose clock began a second earlier. -/
theorem weave_delayed_second :
    ∃ shift', (Resolution.ofTraces (.stamped "frame" 5000)
        ((Trace.stamped "stamp" 1000).delayed 1000000000) (some ⟨"frame", "stamp"⟩)).alignment =
          ⟨.frameMarker, some 2, shift'⟩ ∧
      shift'.toInt = (4000 : Int64).toInt - 1000000000 ∧
      Weave.ofTraces (.stamped "frame" 5000) ((Trace.stamped "stamp" 1000).delayed 1000000000)
          shift' =
        Weave.ofTraces (.stamped "frame" 5000) (.stamped "stamp" 1000) 4000 := by
  have times : (Trace.stamped "stamp" 1000).times = [0, 800, 1000, 1000, 1300] := by decide
  have inRange : ∀ t ∈ (Trace.stamped "stamp" 1000).times, InRange (t.toInt + 1000000000) := by
    simp only [times, List.forall_mem_cons]
    exact ⟨by decide, by decide, by decide, by decide, by decide, nofun⟩
  exact weave_delayed (p := ⟨"frame", 5000, .ofInt 2, 2⟩) (q := ⟨"stamp", 1000, .ofInt 2, 2⟩)
    (by decide +kernel) (by decide +kernel) (by decide +kernel) inRange (by decide) (by decide)

/-- The two samples that an alignment was made from end up at one time, every occurrence of the
viewer's before every occurrence of the layer's, whatever the normalization. -/
theorem markers_coincide
    (aligned : (Resolution.ofTraces viewer layer (some names)).alignment =
      ⟨.frameMarker, some frame, shift⟩) :
    ∃ p q, viewer.firstMarker? names.viewer frame = some p ∧
      layer.firstMarker? names.layer frame = some q ∧
      (InRange (p.time.toInt - q.time.toInt) →
        let merged := (Weave.ofTraces viewer layer shift).merged
        let first := merged.place (Timeline.sampleOf viewerProcess 0 p)
        let second := merged.place (Timeline.sampleOf layerProcess shift q)
        first ∈ merged.events ∧ second ∈ merged.events ∧
          first.time?.isSome ∧ first.time? = second.time? ∧
          ∀ i j : Nat, merged.events[i]? = some first → merged.events[j]? = some second → i < j) := by
  obtain ⟨-, p, q, hp, hq, rfl⟩ := Resolution.exists_of_ofTraces aligned
  refine ⟨p, q, hp, hq, fun fits => ?_⟩
  intro merged first second
  have mem : Timeline.sampleOf viewerProcess 0 p ∈ (Timeline.ofTrace viewer viewerProcess 0
      viewerRole).events :=
    Timeline.mem_ofTrace.mpr (.inr (.inl ⟨p, List.mem_of_find?_eq_some hp, rfl⟩))
  have mem' : Timeline.sampleOf layerProcess (sub p.time q.time) q ∈ (Timeline.ofTrace layer
      layerProcess (sub p.time q.time) layerRole).events :=
    Timeline.mem_ofTrace.mpr (.inr (.inl ⟨q, List.mem_of_find?_eq_some hq, rfl⟩))
  have time : first.time? = second.time? := by
    refine MergedTimeline.time?_place_congr ?_
    rw [Timeline.time?_sampleOf, Timeline.time?_sampleOf, add_zero, add_sub_cancel fits]
  have times := Timeline.filterMap_time?_append viewer layer (sub p.time q.time) viewerRole layerRole
  refine ⟨MergedTimeline.mem_events.mpr ⟨_, List.mem_append_left _ mem, rfl⟩,
    MergedTimeline.mem_events.mpr ⟨_, List.mem_append_right _ mem', rfl⟩,
    MergedTimeline.isSome_time?_place rfl, time, fun i j hi hj => ?_⟩
  exact MergedTimeline.lt_of_process_lt
    (fun event he => MergedTimeline.isFinite_sortTime_place times he) (p := 1) (q := 2) (by decide)
    (fun event he => Timeline.process_of_mem he) (fun event he => Timeline.process_of_mem he)
    MergedTimeline.process_place MergedTimeline.process_place time hi hj

/-- The viewer's sample has a negative time, so both are moved. -/
theorem markers_coincide_stamped :
    let merged := (Weave.ofTraces (.stamped "frame" (-5000)) (.stamped "stamp" 1000) (-6000)).merged
    ∃ first ∈ merged.events, ∃ second ∈ merged.events,
      first.time? = some (microseconds 1000) ∧ first.time? = second.time? ∧
      ∀ i j : Nat, merged.events[i]? = some first → merged.events[j]? = some second → i < j := by
  intro merged
  obtain ⟨p, q, hp, hq, coincide⟩ := @markers_coincide (.stamped "frame" (-5000))
    (.stamped "stamp" 1000) ⟨"frame", "stamp"⟩ 2 (-6000) (by decide +kernel)
  have viewerMarker : Trace.firstMarker? (.stamped "frame" (-5000)) "frame" 2 =
      some ⟨"frame", -5000, .ofInt 2, 2⟩ := by decide +kernel
  have layerMarker : Trace.firstMarker? (.stamped "stamp" 1000) "stamp" 2 =
      some ⟨"stamp", 1000, .ofInt 2, 2⟩ := by decide +kernel
  obtain rfl := Option.some.inj (viewerMarker.symm.trans hp)
  obtain rfl := Option.some.inj (layerMarker.symm.trans hq)
  obtain ⟨first, second, -, same, before⟩ := coincide (by decide)
  exact ⟨_, first, _, second, by decide +kernel, same, before⟩

end TraceWeave
