import Mathlib.Data.List.Forall2
import TraceWeave.Proofs.Arithmetic

/-! A merge is a stable sort of the two timelines.

This is about any events, not only those of decoded traces, as long as no time is a nan: infinities
and negative zeros may occur. Such numbers are in a line by `position`, in which only the two zeros
share a place, and what is added to the times is finite, so there is no nan after it either. -/

namespace TraceWeave

open Binary64 StableSort

theorem Binary64.isNaN_add {x y : Binary64} (hx : x.isNaN = false) (hy : y.isFinite = true) :
    (x.add y).isNaN = false := by
  cases y with
  | infinite => cases hy
  | nan => cases hy
  | finite t n =>
    cases x with
    | nan => cases hx
    | infinite => rfl
    | finite s m =>
      simp only [Binary64.add]
      split
      case isTrue => rfl
      case isFalse =>
        unfold ofUnits
        split <;> rfl

namespace Event

variable {event : Event} {delta : Binary64}

/-- The event has no time or one that is a number. -/
def IsTimed (event : Event) : Prop := event.key.isNaN = false

/-- The event so much later: its time is the rounded sum, and all else is as before. -/
inductive Later (delta : Binary64) : Event → Event → Prop where
  | span {name : String} {process : UInt32} {thread : Int64} {start duration moved : Binary64} :
      IsSum start delta moved →
      Later delta (.span name process thread start duration)
        (.span name process thread moved duration)
  | sample {name : String} {process : UInt32} {thread : Int64} {time value moved : Binary64} :
      IsSum time delta moved →
      Later delta (.sample name process thread time value) (.sample name process thread moved value)
  | threadName {process : UInt32} {thread : Int64} {displayName : String} :
      Later delta (.threadName process thread displayName) (.threadName process thread displayName)

theorem isTimed_delay (h : event.IsTimed) (finite : delta.isFinite = true) :
    (event.delay delta).IsTimed := by
  cases event with
  | span => exact isNaN_add h finite
  | sample => exact isNaN_add h finite
  | threadName => rfl

theorem later_delay (h : event.IsTimed) (finite : delta.isFinite = true) :
    event.Later delta (event.delay delta) := by
  cases event with
  | span => exact .span (isSum_add h finite)
  | sample => exact .sample (isSum_add h finite)
  | threadName => exact .threadName

end Event

namespace MergedTimeline

variable {viewer layer events : List Event} {a b event : Event}

def sortPosition (event : Event) : Int := event.key.position

theorem inOrder_eq_byKey (ha : a.IsTimed) (hb : b.IsTimed) :
    inOrder a b = byKey sortPosition a b := by
  unfold inOrder byKey sortPosition
  rw [← Event.key_eq_sortTime, ← Event.key_eq_sortTime, Bool.eq_iff_iff, Bool.not_eq_true',
    ← Bool.not_eq_true, lt_iff_position hb ha, Int.not_lt, decide_eq_true_eq]

/-- There is a normalization if and only if some event is before zero. -/
theorem isSome_normalizationOf? (timed : ∀ event ∈ events, event.IsTimed) :
    (normalizationOf? events).isSome = true ↔ ∃ event ∈ events, event.moment < 0 := by
  have early_iff : (∃ event ∈ events, event.moment < 0) ↔
      ∃ time ∈ events.filterMap Event.time?, time.isNegative = true := by
    simp only [List.mem_filterMap]
    constructor
    · rintro ⟨event, mem, early⟩
      obtain ⟨time, found, negative⟩ := (Event.isNegative_iff_moment (timed event mem)).mpr early
      exact ⟨time, ⟨event, mem, found⟩, negative⟩
    · rintro ⟨time, ⟨event, mem, found⟩, negative⟩
      exact ⟨event, mem, (Event.isNegative_iff_moment (timed event mem)).mp ⟨time, found, negative⟩⟩
  have number : ∀ time ∈ events.filterMap Event.time?, time.isNaN = false := by
    intro time mem
    obtain ⟨event, mem, found⟩ := List.mem_filterMap.mp mem
    rw [← Event.key_eq_of_time? found]
    exact timed event mem
  rw [early_iff]
  unfold normalizationOf?
  cases times : events.filterMap Event.time? with
  | nil => simp [least?]
  | cons x xs =>
    rw [times] at number
    obtain ⟨m, least, mem, first⟩ := least?_cons x xs
    simp only [least]
    -- the least time is negative as soon as any is
    have negative_iff : (∃ time ∈ x :: xs, time.isNegative = true) ↔ m.isNegative = true := by
      refine ⟨?_, fun negative => ⟨m, mem, negative⟩⟩
      rintro ⟨time, hmem, negative⟩
      rw [isNegative_iff_position (number time hmem)] at negative
      rw [isNegative_iff_position (number m mem)]
      exact (position_le_of_rank_le (first time hmem)).trans_lt negative
    rw [negative_iff]
    split
    case isTrue negative => simp [negative]
    case isFalse negative => simp [negative]

section

variable (timed : ∀ event ∈ viewer ++ layer, event.IsTimed)

include timed

theorem place_of_late (late : ∀ event ∈ viewer ++ layer, 0 ≤ event.moment) :
    (ofEvents viewer layer).shift = 0 ∧ ∀ event, (ofEvents viewer layer).place event = event := by
  have unmoved : normalizationOf? (viewer ++ layer) = none := by
    rw [← Option.not_isSome_iff_eq_none, isSome_normalizationOf? timed]
    rintro ⟨event, mem, early⟩
    exact absurd early (not_lt.mpr (late event mem))
  unfold shift place
  simp [ofEvents, unmoved]

theorem place_of_early (early : ∃ event ∈ viewer ++ layer, event.moment < 0) (event : Event) :
    (ofEvents viewer layer).place event =
      event.delay (microseconds (ofEvents viewer layer).shift) := by
  obtain ⟨n, moved⟩ := Option.isSome_iff_exists.mp ((isSome_normalizationOf? timed).mpr early)
  unfold place shift
  simp only [ofEvents, moved]

end

theorem isTimed_place {event : Event} (h : event.IsTimed) (merged : MergedTimeline) :
    (merged.place event).IsTimed := by
  unfold place
  split
  case h_1 n _ => exact Event.isTimed_delay h (isFinite_microseconds n.shift)
  case h_2 => exact h

theorem isTimed_of_mem_map_place (timed : ∀ event ∈ viewer ++ layer, event.IsTimed)
    (sub : events ⊆ viewer ++ layer) :
    ∀ event ∈ events.map (ofEvents viewer layer).place, event.IsTimed := by
  rw [List.forall_mem_map]
  exact fun event mem => isTimed_place (timed event (sub mem)) _

theorem mergeSort_inOrder (timed : ∀ event ∈ events, event.IsTimed) :
    events.mergeSort inOrder = events.mergeSort (byKey sortPosition) :=
  mergeSort_congr fun a ha b hb => inOrder_eq_byKey (timed a ha) (timed b hb)

/-- What becomes of the times of some events in a merge of `all`: they stay as they are if none of
these is before zero, and else all are moved by the shift, in microseconds. -/
structure Displaced (all : List Event) (shift : Int64) (events moved : List Event) : Prop where
  late : (∀ event ∈ all, 0 ≤ event.moment) → shift = 0 ∧ moved = events
  early : (∃ event ∈ all, event.moment < 0) →
    ∃ delta, IsMicroseconds shift.toInt delta ∧ List.Forall₂ (Event.Later delta) events moved

theorem displaced_place (timed : ∀ event ∈ viewer ++ layer, event.IsTimed)
    (sub : events ⊆ viewer ++ layer) :
    Displaced (viewer ++ layer) (ofEvents viewer layer).shift events
      (events.map (ofEvents viewer layer).place) := by
  constructor
  · intro late
    obtain ⟨unmoved, same⟩ := place_of_late timed late
    exact ⟨unmoved, (List.map_congr_left fun event _ => same event).trans (List.map_id _)⟩
  · intro early
    refine ⟨microseconds (ofEvents viewer layer).shift, isMicroseconds _, ?_⟩
    rw [List.forall₂_map_right_iff, List.forall₂_same]
    intro event mem
    rw [place_of_early timed early]
    exact Event.later_delay (timed event (sub mem)) (isFinite_microseconds _)

/-- `order` lists the places of the events by time, those of one time in ascending order. -/
structure StableOrder (events : List Event) (order : List (Fin events.length)) : Prop where
  perm : order.Perm (List.finRange events.length)
  sorted : order.Pairwise fun i j => events[i].moment ≤ events[j].moment
  stable : order.Pairwise fun i j => events[i].moment = events[j].moment → i < j

theorem exists_stableOrder (timed : ∀ event ∈ events, event.IsTimed) :
    ∃ order, StableOrder events order ∧ events.mergeSort inOrder = order.map events.get := by
  have le_iff (i j : Fin events.length) :
      events[i].moment ≤ events[j].moment ↔ sortPosition events[i] ≤ sortPosition events[j] :=
    Event.moment_le_iff (timed events[i] (List.getElem_mem i.isLt))
      (timed events[j] (List.getElem_mem j.isLt))
  obtain ⟨order, perm, sorted, ascending, stable⟩ := exists_order_byKey sortPosition events
  refine ⟨order, ⟨perm, ?_, ?_⟩, (mergeSort_inOrder timed).trans sorted⟩
  · exact ascending.imp fun {i j} le => (le_iff i j).mpr le
  · refine stable.imp fun {i j} first same => first ?_
    exact le_antisymm ((le_iff i j).mp same.le) ((le_iff j i).mp same.ge)

/-- Of two events, the one that was in front stays there unless the other has an earlier time. -/
theorem StableOrder.lt_of_lt {order : List (Fin events.length)} (h : StableOrder events order)
    {i j : Fin order.length} (front : order[i] < order[j])
    (le : events[order[i]].moment ≤ events[order[j]].moment) : i < j := by
  by_contra behind
  rcases lt_or_eq_of_le (not_lt.mp behind) with after | rfl
  · have sorted := List.pairwise_iff_getElem.mp h.sorted j i j.isLt i.isLt after
    have back := List.pairwise_iff_getElem.mp h.stable j i j.isLt i.isLt after
      (le_antisymm sorted le)
    exact lt_asymm front back
  · exact lt_irrefl _ front

end MergedTimeline

/-- A merge moves all times by the shift that it reports, or leaves all as they are when none is
below zero, and then sorts by time: each event is there once, no time is before the one in front of
it, and events of one time keep their order, the viewer's before the layer's. -/
theorem merge_stable (viewer layer : List Event)
    (timed : ∀ event ∈ viewer ++ layer, event.IsTimed) :
    let merged := MergedTimeline.ofEvents viewer layer
    ∃ moved, MergedTimeline.Displaced (viewer ++ layer) merged.shift (viewer ++ layer) moved ∧
      (∀ event ∈ moved, event.IsTimed) ∧
      ∃ order, MergedTimeline.StableOrder moved order ∧ merged.events = order.map moved.get ∧
        ∀ i j : Fin order.length, order[i] < viewer.length → viewer.length ≤ order[j] →
          moved[order[i]].moment ≤ moved[order[j]].moment → i < j := by
  intro merged
  have all : viewer ++ layer ⊆ viewer ++ layer := List.Subset.refl _
  have numbers := MergedTimeline.isTimed_of_mem_map_place timed all
  obtain ⟨order, stable, sorted⟩ := MergedTimeline.exists_stableOrder numbers
  refine ⟨_, MergedTimeline.displaced_place timed all, numbers, order, stable, ?_,
    fun i j first second => ?_⟩
  · rw [← sorted]
    exact MergedTimeline.events_ofEvents viewer layer
  · exact stable.lt_of_lt (Fin.lt_def.mpr (by omega))

/-- Two times before zero are one time, and so are a name and zeros of both signs. -/
theorem merge_stable_early :
    let viewer : List Event :=
      [.sample "frame" viewerProcess 1 (microseconds (-5000)) .zero,
        .threadName viewerProcess 1 "viewer-thread-1", .sample "frame" viewerProcess 1 .zero .zero]
    let layer : List Event :=
      [.span "draw" layerProcess 1 (.finite true .zero) .zero,
        .span "copy" layerProcess 2 (microseconds (-5000)) (microseconds 700)]
    let merged := MergedTimeline.ofEvents viewer layer
    (∀ event ∈ viewer ++ layer, event.IsTimed) ∧ merged.shift = 5000 ∧
      ∃ moved, MergedTimeline.Displaced (viewer ++ layer) 5000 (viewer ++ layer) moved ∧
        ∃ order, MergedTimeline.StableOrder moved order ∧ merged.events = order.map moved.get := by
  intro viewer layer merged
  have number (ns : Int64) : (microseconds ns).isNaN = false :=
    isNaN_eq_false (isFinite_microseconds ns)
  have zero (negative : Bool) : (finite negative .zero).isNaN = false := rfl
  have timed : ∀ event ∈ viewer ++ layer, event.IsTimed := by
    simp [viewer, layer, Event.IsTimed, Event.key, number, zero, Binary64.zero]
  have shift : merged.shift = 5000 := by decide +kernel
  obtain ⟨moved, displaced, -, order, stable, sorted, -⟩ := merge_stable viewer layer timed
  exact ⟨timed, shift, moved, shift ▸ displaced, order, stable, sorted⟩

end TraceWeave
