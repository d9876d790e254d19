import TraceWeave.Proofs.Merge
import TraceWeave.Proofs.Moment
import TraceWeave.Proofs.Restoration
import TraceWeave.Proofs.Timeline

/-! The normalization of a merge.

There is one exactly when some nanosecond time is negative, and it is then made from the earliest
of them (`Normalizes`). Every time that is moved by it is finite and not negative, because taking
microseconds back to nanoseconds and to microseconds again loses nothing. The main statement,
`merge_nonnegative`, is about all numbers and the order of a merged timeline. -/

namespace TraceWeave

open Binary64

namespace MergedTimeline

variable {events : List Event} {times : List Int64} {n : Normalization}

theorem least?_cons (x : Binary64) (xs : List Binary64) :
    ∃ m, least? (x :: xs) = some m ∧ m ∈ x :: xs ∧ ∀ y ∈ x :: xs, m.rank ≤ y.rank := by
  refine ⟨_, rfl, ?_⟩
  induction xs generalizing x with
  | nil => simp
  | cons y ys ih =>
    rw [List.foldl_cons]
    -- the smaller of the first two goes on against the rest
    by_cases less : y.rank < x.rank
    · obtain ⟨mem, first⟩ := ih y
      rw [if_pos less]
      refine ⟨List.mem_cons_of_mem _ mem, fun z hz => ?_⟩
      rcases List.mem_cons.mp hz with rfl | hz
      · exact (first y List.mem_cons_self).trans less.le
      · exact first z hz
    · obtain ⟨mem, first⟩ := ih x
      rw [if_neg less]
      refine ⟨?_, fun z hz => ?_⟩
      · rcases List.mem_cons.mp mem with eq | mem
        · rw [eq]; exact List.mem_cons_self
        · exact List.mem_cons_of_mem _ (List.mem_cons_of_mem _ mem)
      · rcases List.mem_cons.mp hz with rfl | hz
        · exact first z List.mem_cons_self
        · rcases List.mem_cons.mp hz with rfl | hz
          · exact (first x List.mem_cons_self).trans (Int.not_lt.mp less)
          · exact first z (List.mem_cons_of_mem _ hz)

/-- The normalization is made from the earliest of these times, which is negative. -/
structure Normalizes (n : Normalization) (times : List Int64) : Prop where
  exists_earliest : ∃ t ∈ times, t.toInt < 0 ∧ n.earliest = microseconds t ∧
    n.shift.toInt = restored (microUnits t.toInt.natAbs) ∧
    ∀ s ∈ times, (microseconds t).scaled ≤ (microseconds s).scaled

theorem scaled_microseconds (t : Int64) :
    (microseconds t).scaled = signed (t.toInt < 0) (microUnits t.toInt.natAbs) :=
  (isUnits_microseconds t).scaled_eq

theorem scaled_microseconds_natCast {t : Int64} {k : Nat} (h : t.toInt = k) :
    (microseconds t).scaled = microUnits k := by
  rw [(isUnits_microseconds_natCast h).scaled_eq, signed_false]

theorem scaled_microseconds_of_neg {t : Int64} (h : t.toInt < 0) :
    (microseconds t).scaled = -(microUnits t.toInt.natAbs : Int) := by
  rw [(isUnits_microseconds_of_neg h).scaled_eq, signed_true]

theorem scaled_microseconds_neg_iff (t : Int64) : (microseconds t).scaled < 0 ↔ t.toInt < 0 := by
  by_cases h : t.toInt < 0
  · have := microUnits_pos (show 0 < t.toInt.natAbs by omega)
    rw [scaled_microseconds_of_neg h]
    omega
  · obtain ⟨k, hk⟩ : ∃ k : Nat, t.toInt = k := ⟨t.toInt.toNat, by omega⟩
    rw [scaled_microseconds_natCast hk]
    omega

/-- There is a normalization if and only if a time is negative. -/
theorem normalizationOf?_cases (h : events.filterMap Event.time? = times.map microseconds) :
    (∀ t ∈ times, 0 ≤ t.toInt) ∧ normalizationOf? events = none ∨
      ∃ n, normalizationOf? events = some n ∧ Normalizes n times := by
  cases times with
  | nil =>
    left
    simp [normalizationOf?, h, least?]
  | cons t ts =>
    obtain ⟨m, least, mem, first⟩ := least?_cons (microseconds t) (ts.map microseconds)
    rw [← List.map_cons, ← h] at least
    rw [← List.map_cons] at mem first
    obtain ⟨e, he, rfl⟩ := List.mem_map.mp mem
    have earliest : ∀ s ∈ t :: ts, (microseconds e).scaled ≤ (microseconds s).scaled := by
      intro s hs
      rw [← position_eq_scaled (isFinite_microseconds e),
        ← position_eq_scaled (isFinite_microseconds s)]
      exact position_le_of_rank_le (first _ (List.mem_map_of_mem hs))
    simp only [normalizationOf?, least]
    by_cases negative : e.toInt < 0
    · right
      rw [if_pos ((isNegative_iff (isFinite_microseconds e)).mpr
        ((scaled_microseconds_neg_iff e).mpr negative))]
      refine ⟨_, rfl, ⟨e, he, negative, rfl, ?_, earliest⟩⟩
      exact toInt_round_scale (isUnits_microseconds_of_neg negative)
        (microUnits_le (natAbs_toInt_le e))
    · left
      refine ⟨fun s hs => ?_, ?_⟩
      · by_contra early
        refine negative ((scaled_microseconds_neg_iff e).mp ?_)
        have := (scaled_microseconds_neg_iff s).mpr (by omega)
        have := earliest s hs
        omega
      · rw [if_neg]
        rw [isNegative_iff (isFinite_microseconds e), scaled_microseconds_neg_iff]
        exact negative

theorem Normalizes.shift_pos (h : Normalizes n times) : 0 < n.shift.toInt := by
  obtain ⟨t, _, negative, _, shift, _⟩ := h.exists_earliest
  have := restored_pos (show 0 < t.toInt.natAbs by omega) (natAbs_toInt_le t)
  omega

theorem isFinite_add_microseconds (s t : Int64) :
    ((microseconds s).add (microseconds t)).isFinite = true ∧
      (0 ≤ (microseconds s).scaled + (microseconds t).scaled →
        0 ≤ ((microseconds s).add (microseconds t)).scaled) := by
  have bound := microUnits_le (natAbs_toInt_le s)
  have bound' := microUnits_le (natAbs_toInt_le t)
  obtain ⟨finite, sum⟩ := (isUnits_microseconds s).add (isUnits_microseconds t) (by omega)
  refine ⟨finite, fun nonneg => ?_⟩
  rw [sum, ← scaled_microseconds, ← scaled_microseconds]
  exact signed_natAbs_nearest _ nonneg

theorem Normalizes.add_nonneg (h : Normalizes n times) {s : Int64} (hs : s ∈ times) :
    0 ≤ ((microseconds s).add (microseconds n.shift)).scaled := by
  obtain ⟨t, _, negative, _, shift, earliest⟩ := h.exists_earliest
  refine (isFinite_add_microseconds s n.shift).2 ?_
  have enough := microUnits_le_restored (natAbs_toInt_le t)
  have least := earliest s hs
  have moved := scaled_microseconds_natCast shift
  have start := scaled_microseconds_of_neg negative
  omega

section

variable {viewer layer : List Event} {event : Event}
  (h : (viewer ++ layer).filterMap Event.time? = times.map microseconds)

include h

theorem exists_time_of_mem (he : event ∈ viewer ++ layer) {x : Binary64}
    (time : event.time? = some x) : ∃ t ∈ times, microseconds t = x := by
  have : x ∈ (viewer ++ layer).filterMap Event.time? := List.mem_filterMap.mpr ⟨event, he, time⟩
  rw [h] at this
  exact List.mem_map.mp this

theorem time?_place (he : event ∈ viewer ++ layer) {x : Binary64}
    (time : ((ofEvents viewer layer).place event).time? = some x) :
    x.isFinite = true ∧ 0 ≤ x.scaled := by
  rcases normalizationOf?_cases h with ⟨late, unmoved⟩ | ⟨n, moved, normalizes⟩
  · have same : (ofEvents viewer layer).place event = event := by
      simp only [place, ofEvents, unmoved]
    rw [same] at time
    obtain ⟨t, ht, rfl⟩ := exists_time_of_mem h he time
    have := scaled_microseconds_neg_iff t
    have := late t ht
    exact ⟨isFinite_microseconds t, by omega⟩
  · have later : (ofEvents viewer layer).place event = event.delay (microseconds n.shift) := by
      simp only [place, ofEvents, moved]
    rw [later, Event.time?_delay, Option.map_eq_some_iff] at time
    obtain ⟨y, time, rfl⟩ := time
    obtain ⟨t, ht, rfl⟩ := exists_time_of_mem h he time
    exact ⟨(isFinite_add_microseconds t n.shift).1, normalizes.add_nonneg ht⟩

theorem isFinite_sortTime_place (he : event ∈ viewer ++ layer) :
    (sortTime ((ofEvents viewer layer).place event)).isFinite = true := by
  unfold sortTime
  cases time : ((ofEvents viewer layer).place event).time? with
  | none => rfl
  | some x => exact (time?_place h he time).1

theorem pairwise_moment :
    (ofEvents viewer layer).events.Pairwise fun a b => a.moment ≤ b.moment := by
  have finite (event : Event) (mem : event ∈ (ofEvents viewer layer).events) :
      event.key.isFinite = true := by
    obtain ⟨before, he, rfl⟩ := mem_events.mp mem
    rw [Event.key_eq_sortTime]
    exact isFinite_sortTime_place h he
  refine (pairwise_sortUnits fun event he => isFinite_sortTime_place h he).imp_of_mem ?_
  intro a b ha hb le
  rw [Event.moment_le_iff (isNaN_eq_false (finite a ha)) (isNaN_eq_false (finite b hb)),
    position_eq_scaled (finite a ha), position_eq_scaled (finite b hb), Event.key_eq_sortTime,
    Event.key_eq_sortTime]
  exact le

theorem finite_place (he : event ∈ viewer ++ layer) (finite : event.Finite) :
    ((ofEvents viewer layer).place event).Finite := by
  have time (x : Binary64) := time?_place h he (x := x)
  unfold place at time ⊢
  split
  case h_1 found =>
    rw [found] at time
    exact Event.finite_delay finite fun x hx => (time x hx).1
  case h_2 => exact finite

theorem shift_eq_zero (late : ∀ t ∈ times, 0 ≤ t.toInt) : (ofEvents viewer layer).shift = 0 := by
  rcases normalizationOf?_cases h with ⟨_, unmoved⟩ | ⟨n, _, normalizes⟩
  · simp only [shift, ofEvents, unmoved]
  · obtain ⟨t, ht, negative, _⟩ := normalizes.exists_earliest
    have := late t ht
    omega

theorem shift_pos (early : ∃ t ∈ times, t.toInt < 0) : 0 < (ofEvents viewer layer).shift.toInt := by
  obtain ⟨t, ht, negative⟩ := early
  rcases normalizationOf?_cases h with ⟨late, _⟩ | ⟨n, moved, normalizes⟩
  · have := late t ht
    omega
  · simp only [shift, ofEvents, moved]
    exact normalizes.shift_pos

end

end MergedTimeline

/-- The merge of two traces has no negative time, whatever the 64-bit numbers in them, and its
events are in order of time. All is moved by a positive number of nanoseconds if a shifted time is
negative, and by nothing otherwise. -/
theorem merge_nonnegative (viewer layer : Trace) (layerShift : Int64)
    (viewerName layerName : String)
    (values : ∀ plot ∈ viewer.plots ++ layer.plots, plot.value.isFinite = true) :
    let merged := MergedTimeline.ofEvents
      (Timeline.ofTrace viewer viewerProcess 0 viewerName).events
      (Timeline.ofTrace layer layerProcess layerShift layerName).events
    let times := viewer.shiftedTimes 0 ++ layer.shiftedTimes layerShift
    (∀ event ∈ merged.events, event.Finite ∧
      ∀ time, event.time? = some time → 0 ≤ time.scaled) ∧
    merged.events.Pairwise (fun a b => a.moment ≤ b.moment) ∧
    ((∀ t ∈ times, 0 ≤ t.toInt) → merged.shift = 0) ∧
    ((∃ t ∈ times, t.toInt < 0) → 0 < merged.shift.toInt) := by
  intro merged times
  have h := Timeline.filterMap_time?_append viewer layer layerShift viewerName layerName
  refine ⟨fun event he => ?_, MergedTimeline.pairwise_moment h, MergedTimeline.shift_eq_zero h,
    MergedTimeline.shift_pos h⟩
  obtain ⟨before, hb, rfl⟩ := MergedTimeline.mem_events.mp he
  refine ⟨MergedTimeline.finite_place h hb ?_, fun time ht =>
    (MergedTimeline.time?_place h hb ht).2⟩
  rcases List.mem_append.mp hb with hv | hl
  · exact Timeline.finite_of_mem (fun plot hp => values plot (List.mem_append_left _ hp)) hv
  · exact Timeline.finite_of_mem (fun plot hp => values plot (List.mem_append_right _ hp)) hl

/-- The least time there is goes up like any other. -/
theorem merge_nonnegative_minValue :
    0 < (MergedTimeline.ofEvents
      (Timeline.ofTrace ⟨[⟨"draw", Int64.minValue, 1000, 1⟩], []⟩ viewerProcess 0 viewerRole).events
      (Timeline.ofTrace ⟨[], [⟨"frame", 5, .zero, 1⟩]⟩ layerProcess 7 layerRole).events).shift.toInt := by
  have early : ∃ t ∈ Trace.shiftedTimes ⟨[⟨"draw", Int64.minValue, 1000, 1⟩], []⟩ 0 ++
      Trace.shiftedTimes ⟨[], [⟨"frame", 5, .zero, 1⟩]⟩ 7, t.toInt < 0 :=
    ⟨Int64.minValue, by decide, by decide⟩
  exact (merge_nonnegative _ _ 7 viewerRole layerRole (by decide)).2.2.2 early

end TraceWeave
