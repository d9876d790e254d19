import Mathlib.Data.List.MinMax
import TraceWeave.Proofs.Monotone

/-! Where a timeline starts that has been moved.

All times keep their order when they are moved, so the first event is that of the least nanosecond
time. It ends up at zero if the shift leads to the same microseconds as that time did, and at one
last place of them above zero where the shift is too large (`Overshoots`). -/

namespace TraceWeave

open Binary64

namespace MergedTimeline

variable {times : List Int64} {n : Normalization} {s t : Int64}

/-- Some event has this time and none has an earlier one. -/
def StartsAt (merged : MergedTimeline) (time : Binary64) : Prop :=
  ∃ event ∈ merged.events, event.time? = some time ∧
    ∀ other ∈ merged.events, ∀ later, other.time? = some later → later.lt time = false

/-- No time starts a timeline below or above another one that does. -/
theorem StartsAt.scaled_eq {merged : MergedTimeline} {x y : Binary64} (hx : merged.StartsAt x)
    (hy : merged.StartsAt y) (fx : x.isFinite = true) (fy : y.isFinite = true) :
    x.scaled = y.scaled := by
  obtain ⟨event, mem, time, first⟩ := hx
  obtain ⟨other, mem', time', first'⟩ := hy
  have above := first other mem' y time'
  have below := first' event mem x time
  rw [← Bool.not_eq_true, lt_iff fy fx] at above
  rw [← Bool.not_eq_true, lt_iff fx fy] at below
  omega

theorem exists_least (h : times ≠ []) : ∃ t ∈ times, ∀ s ∈ times, t.toInt ≤ s.toInt := by
  cases found : times.argmin Int64.toInt with
  | none => exact absurd (List.argmin_eq_none.mp found) h
  | some t => exact ⟨t, List.argmin_mem found, fun s hs => List.le_of_mem_argmin hs found⟩

/-- The shift comes from the least time, as from all times with the same microseconds. -/
theorem Normalizes.shift_of_least (h : Normalizes n times) (ht : t ∈ times)
    (least : ∀ s ∈ times, t.toInt ≤ s.toInt) :
    t.toInt < 0 ∧ n.shift.toInt = restored (microUnits t.toInt.natAbs) := by
  obtain ⟨first, mem, negative, -, shift, earliest⟩ := h.exists_earliest
  have le := least first mem
  have early : t.toInt < 0 := by omega
  have same : microUnits t.toInt.natAbs = microUnits first.toInt.natAbs := by
    have below := earliest t ht
    have above := scaled_microseconds_mono le
    rw [scaled_microseconds_of_neg early, scaled_microseconds_of_neg negative] at below above
    omega
  rw [same]
  exact ⟨early, shift⟩

theorem add_eq_zero {x y : Binary64} {m : Nat} (hx : x.IsUnits true m) (hy : y.IsUnits false m) :
    x.add y = .zero := by
  obtain ⟨m, rfl, units⟩ := hx
  obtain ⟨m', rfl, units'⟩ := hy
  have none : signed true m.units + signed false m'.units = 0 := by
    rw [signed_true, signed_false]; omega
  simp only [Binary64.add, none, if_true]
  rfl

section

variable (negative : t.toInt < 0) (shift : n.shift.toInt = restored (microUnits t.toInt.natAbs))

include negative shift

theorem add_shift_eq_zero (less : ¬ Overshoots t.toInt.natAbs) :
    (microseconds t).add (microseconds n.shift) = .zero := by
  have moved := isUnits_microseconds_natCast shift
  rw [microUnits_restored (by omega) (natAbs_toInt_le t) less] at moved
  exact add_eq_zero (isUnits_microseconds_of_neg negative) moved

/-- A shift that is too large leaves one last place of the microseconds. -/
theorem scaled_add_shift (beyond : Overshoots t.toInt.natAbs) :
    1024 * ((microseconds t).add (microseconds n.shift)).scaled = unitsPerOne := by
  have back := microUnits_restored_of_overshoots beyond
  have bound := microUnits_le (natAbs_toInt_le t)
  have sum := ((isUnits_microseconds_of_neg negative).add (isUnits_microseconds_natCast shift) (by
    omega)).2
  obtain ⟨d, hd⟩ : ∃ d, microUnits (restored (microUnits t.toInt.natAbs)) =
    microUnits t.toInt.natAbs + d := Nat.exists_eq_add_of_le (by omega)
  have step : 1024 * d = unitsPerOne := by omega
  have exact : Magnitude.Exact d := by
    obtain ⟨u, hu, -, one⟩ := exists_unitsPerOne_eq
    obtain ⟨e, rfl⟩ : ∃ e, u = e + 9 := ⟨u - 9, by omega⟩
    refine ⟨1, e, by decide, Nat.eq_of_mul_eq_mul_left (show 0 < 1024 by decide) ?_⟩
    rw [step, one]
    ring
  have whole := Magnitude.nearest_mul_self exact Nat.one_pos
  have rest : signed true (microUnits t.toInt.natAbs) +
      signed false (microUnits t.toInt.natAbs + d) = d := by
    rw [signed_true, signed_false]; omega
  rw [Nat.mul_one] at whole
  rw [sum, hd, rest, Int.natAbs_natCast, whole, decide_eq_false (Int.natCast_nonneg d).not_gt,
    signed_false]
  exact_mod_cast step

end

section

variable {viewer layer : List Event}
  (h : (viewer ++ layer).filterMap Event.time? = times.map microseconds)
  (moved : normalizationOf? (viewer ++ layer) = some n)

include h moved

theorem startsAt_of_least (ht : t ∈ times) (least : ∀ s ∈ times, t.toInt ≤ s.toInt) :
    (ofEvents viewer layer).StartsAt ((microseconds t).add (microseconds n.shift)) := by
  have place (event : Event) :
      (ofEvents viewer layer).place event = event.delay (microseconds n.shift) := by
    simp only [MergedTimeline.place, ofEvents, moved]
  have mem : microseconds t ∈ (viewer ++ layer).filterMap Event.time? := by
    rw [h]; exact List.mem_map_of_mem ht
  obtain ⟨event, he, time⟩ := List.mem_filterMap.mp mem
  refine ⟨event.delay (microseconds n.shift), mem_events.mpr ⟨event, he, place event⟩, ?_, ?_⟩
  · rw [Event.time?_delay, time]; rfl
  · intro other ho later found
    obtain ⟨before, hb, rfl⟩ := mem_events.mp ho
    rw [place, Event.time?_delay, Option.map_eq_some_iff] at found
    obtain ⟨x, found, rfl⟩ := found
    obtain ⟨s, hs, rfl⟩ := exists_time_of_mem h hb found
    rw [← Bool.not_eq_true, lt_iff (isFinite_add_microseconds s n.shift).1
      (isFinite_add_microseconds t n.shift).1, Int.not_lt]
    exact scaled_add_microseconds_mono n.shift (least s hs)

end

end MergedTimeline

/-- Where a merge starts that has a negative time. Its first event is at exactly zero if and only if
the least time does not overshoot on the way to microseconds and back, and 1/1024 of a microsecond
late otherwise. -/
theorem normalization_start (viewer layer : Trace) (layerShift : Int64)
    (viewerName layerName : String)
    (early : ∃ t ∈ viewer.shiftedTimes 0 ++ layer.shiftedTimes layerShift, t.toInt < 0) :
    let merged := MergedTimeline.ofEvents
      (Timeline.ofTrace viewer viewerProcess 0 viewerName).events
      (Timeline.ofTrace layer layerProcess layerShift layerName).events
    ∃ t ∈ viewer.shiftedTimes 0 ++ layer.shiftedTimes layerShift,
      (∀ s ∈ viewer.shiftedTimes 0 ++ layer.shiftedTimes layerShift, t.toInt ≤ s.toInt) ∧
      (merged.StartsAt .zero ↔ ¬ Overshoots t.toInt.natAbs) ∧
      (Overshoots t.toInt.natAbs →
        ∃ time, merged.StartsAt time ∧ 1024 * time.scaled = unitsPerOne) := by
  intro merged
  have h := Timeline.filterMap_time?_append viewer layer layerShift viewerName layerName
  generalize viewer.shiftedTimes 0 ++ layer.shiftedTimes layerShift = times at h early ⊢
  obtain ⟨n, moved, normalizes⟩ :=
    (MergedTimeline.normalizationOf?_cases h).resolve_left fun ⟨late, _⟩ => by
      obtain ⟨t, ht, negative⟩ := early
      have := late t ht
      omega
  obtain ⟨t, ht, least⟩ := MergedTimeline.exists_least (List.ne_nil_of_mem early.choose_spec.1)
  obtain ⟨negative, shift⟩ := normalizes.shift_of_least ht least
  have start : merged.StartsAt ((microseconds t).add (microseconds n.shift)) :=
    MergedTimeline.startsAt_of_least h moved ht least
  have finite := (MergedTimeline.isFinite_add_microseconds t n.shift).1
  refine ⟨t, ht, least, ⟨fun zero beyond => ?_, fun less => ?_⟩, fun beyond => ?_⟩
  · have same := zero.scaled_eq start rfl finite
    have late := MergedTimeline.scaled_add_shift negative shift beyond
    have none : Binary64.zero.scaled = 0 := by decide
    have := unitsPerOne_pos
    omega
  · rwa [MergedTimeline.add_shift_eq_zero negative shift less] at start
  · exact ⟨_, start, MergedTimeline.scaled_add_shift negative shift beyond⟩

/-- A zone that begins 51 days before zero, and at zero after the merge. -/
theorem normalization_start_early :
    let viewer : Trace := ⟨[⟨"draw", -4398046511104020, 1000, 1⟩], []⟩
    let layer : Trace := ⟨[], [⟨"frame", 5, .zero, 1⟩]⟩
    (∃ t ∈ viewer.shiftedTimes 0 ++ layer.shiftedTimes 7, t.toInt < 0) ∧
    (MergedTimeline.ofEvents (Timeline.ofTrace viewer viewerProcess 0 viewerRole).events
      (Timeline.ofTrace layer layerProcess 7 layerRole).events).StartsAt .zero := by
  intro viewer layer
  have times : viewer.shiftedTimes 0 ++ layer.shiftedTimes 7 = [-4398046511104020, 12] := by
    decide
  have early : ∃ t ∈ viewer.shiftedTimes 0 ++ layer.shiftedTimes 7, t.toInt < 0 := by
    rw [times]
    exact ⟨-4398046511104020, by decide, by decide⟩
  refine ⟨early, ?_⟩
  obtain ⟨t, mem, -, start, -⟩ := normalization_start viewer layer 7 viewerRole layerRole early
  rw [times] at mem
  obtain rfl | rfl := List.mem_pair.mp mem
  · exact start.mpr (by decide)
  · exact start.mpr (by decide)

/-- One nanosecond earlier, such a zone does not begin at zero. -/
theorem not_startsAt_zero :
    let viewer : Trace := ⟨[⟨"draw", -4398046511104021, 1000, 1⟩], []⟩
    (∃ t ∈ viewer.shiftedTimes 0 ++ Trace.empty.shiftedTimes 0, t.toInt < 0) ∧
    ¬ (MergedTimeline.ofEvents (Timeline.ofTrace viewer viewerProcess 0 viewerRole).events
      (Timeline.ofTrace Trace.empty layerProcess 0 layerRole).events).StartsAt .zero := by
  intro viewer
  refine ⟨⟨-4398046511104021, by decide, by decide⟩, ?_⟩
  have late : ∀ event ∈ (Timeline.ofTrace viewer viewerProcess 0 viewerRole).events ++
      (Timeline.ofTrace Trace.empty layerProcess 0 layerRole).events,
      ((MergedTimeline.ofEvents (Timeline.ofTrace viewer viewerProcess 0 viewerRole).events
        (Timeline.ofTrace Trace.empty layerProcess 0 layerRole).events).place event).time? ≠
          some .zero := by
    decide +kernel
  rintro ⟨event, mem, time, -⟩
  obtain ⟨before, hb, rfl⟩ := MergedTimeline.mem_events.mp mem
  exact late before hb time

end TraceWeave
