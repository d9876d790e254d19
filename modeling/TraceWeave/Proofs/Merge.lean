import TraceWeave.Proofs.Binary64
import TraceWeave.Proofs.StableSort
import TraceWeave.Timeline.Merge

/-! Where the events of a merge end up.

Merging puts each event at its normalized place (`place`) and then sorts. As long as all times are
finite, the sort is one by units of time (`events_ofEvents_eq`), so times never decrease and, among
events of one time, the first timeline comes first. -/

namespace TraceWeave

open StableSort

namespace Event

variable {event : Event} {delta : Binary64}

@[simp]
theorem time?_delay : (event.delay delta).time? = event.time?.map (·.add delta) := by
  cases event <;> rfl

@[simp]
theorem process_delay : (event.delay delta).process = event.process := by
  cases event <;> rfl

end Event

namespace MergedTimeline

variable {viewer layer : List Event} {merged : MergedTimeline} {a b event : Event}

/-- An event after the normalization. -/
def place (merged : MergedTimeline) (event : Event) : Event :=
  match merged.normalization? with
  | some n => event.delay (microseconds n.shift)
  | none => event

def sortUnits (event : Event) : Int := (sortTime event).scaled

@[simp]
theorem process_place : (merged.place event).process = event.process := by
  unfold place
  split
  · exact Event.process_delay
  · rfl

theorem time?_place_congr (h : a.time? = b.time?) :
    (merged.place a).time? = (merged.place b).time? := by
  unfold place
  split
  · rw [Event.time?_delay, Event.time?_delay, h]
  · exact h

theorem isSome_time?_place (h : event.time?.isSome) : (merged.place event).time?.isSome := by
  unfold place
  split
  · rwa [Event.time?_delay, Option.isSome_map]
  · exact h

theorem events_ofEvents (viewer layer : List Event) :
    (ofEvents viewer layer).events =
      ((viewer ++ layer).map (ofEvents viewer layer).place).mergeSort inOrder := by
  simp only [ofEvents]
  cases h : normalizationOf? (viewer ++ layer) with
  | some n => rfl
  | none =>
    have same : (viewer ++ layer).map (place ⟨(viewer ++ layer).mergeSort inOrder, none⟩) =
        viewer ++ layer := List.map_id _
    simp only [same]

theorem mem_events : event ∈ (ofEvents viewer layer).events ↔
    ∃ before ∈ viewer ++ layer, (ofEvents viewer layer).place before = event := by
  rw [events_ofEvents, List.mem_mergeSort, List.mem_map]

theorem inOrder_eq (ha : (sortTime a).isFinite = true) (hb : (sortTime b).isFinite = true) :
    inOrder a b = byKey sortUnits a b := by
  unfold inOrder byKey sortUnits
  rw [Bool.eq_iff_iff, Bool.not_eq_true', ← Bool.not_eq_true, Binary64.lt_iff hb ha, Int.not_lt,
    decide_eq_true_eq]

section

variable (finite : ∀ event ∈ viewer ++ layer,
  (sortTime ((ofEvents viewer layer).place event)).isFinite = true)

include finite

theorem events_ofEvents_eq : (ofEvents viewer layer).events =
    ((viewer ++ layer).map (ofEvents viewer layer).place).mergeSort (byKey sortUnits) := by
  rw [events_ofEvents]
  refine mergeSort_congr fun a ha b hb => ?_
  obtain ⟨x, hx, rfl⟩ := List.mem_map.mp ha
  obtain ⟨y, hy, rfl⟩ := List.mem_map.mp hb
  exact inOrder_eq (finite x hx) (finite y hy)

theorem pairwise_sortUnits :
    (ofEvents viewer layer).events.Pairwise fun a b => sortUnits a ≤ sortUnits b := by
  rw [events_ofEvents_eq finite]
  exact pairwise_mergeSort_byKey _

/-- Events of one time keep to the order of their processes. -/
theorem pairwise_process {p q : UInt32} (le : p ≤ q) (hp : ∀ event ∈ viewer, event.process = p)
    (hq : ∀ event ∈ layer, event.process = q) :
    (ofEvents viewer layer).events.Pairwise fun a b =>
      sortUnits a = sortUnits b → a.process ≤ b.process := by
  rw [events_ofEvents_eq finite]
  refine pairwise_mergeSort_of_pairwise (List.pairwise_map.mpr ?_)
  simp only [process_place, List.pairwise_append]
  refine ⟨?_, ?_, ?_⟩
  · exact List.pairwise_of_forall_mem_list fun a ha b hb => by
      rw [hp a ha, hp b hb]; exact UInt32.le_refl p
  · exact List.pairwise_of_forall_mem_list fun a ha b hb => by
      rw [hq a ha, hq b hb]; exact UInt32.le_refl q
  · intro a ha b hb
    rw [hp a ha, hq b hb]
    exact le

/-- An event of the second timeline comes after all events of the first that share its time. -/
theorem lt_of_process_lt {p q : UInt32} (lt : p < q) (hp : ∀ event ∈ viewer, event.process = p)
    (hq : ∀ event ∈ layer, event.process = q) (first : a.process = p) (second : b.process = q)
    (time : a.time? = b.time?) {i j : Nat} (hi : (ofEvents viewer layer).events[i]? = some a)
    (hj : (ofEvents viewer layer).events[j]? = some b) : i < j := by
  have le : p ≤ q := UInt32.le_of_lt lt
  by_contra notBefore
  rcases Nat.lt_or_eq_of_le (Nat.not_lt.mp notBefore) with after | rfl
  · obtain ⟨hi', rfl⟩ := List.getElem?_eq_some_iff.mp hi
    obtain ⟨hj', rfl⟩ := List.getElem?_eq_some_iff.mp hj
    have order := List.pairwise_iff_getElem.mp (pairwise_process finite le hp hq) j i hj' hi' after
      (by rw [sortUnits, sortUnits, sortTime, sortTime, time])
    rw [first, second] at order
    exact UInt32.not_le.mpr lt order
  · rw [hi, Option.some.injEq] at hj
    rw [hj, second] at first
    rw [first] at lt
    exact UInt32.lt_irrefl p lt

end

end MergedTimeline

end TraceWeave
