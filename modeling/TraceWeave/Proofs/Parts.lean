import TraceWeave.Proofs.StableMerge

/-! The part of a merge that belongs to one process.

Picking the events of one process out of a merge comes to the same as sorting only these, once they
are moved (`part_ofEvents`). What the other trace can do to them is to set the shift, so merges that
move their times alike agree on the part of a trace that they share (`traces_undisturbed`). -/

namespace TraceWeave

open StableSort

namespace MergedTimeline

variable {viewer layer viewer' layer' events : List Event} {process other : UInt32}

def part (merged : MergedTimeline) (process : UInt32) : List Event :=
  merged.events.filter (·.process = process)

theorem filter_map_place (merged : MergedTimeline) (process : UInt32) (events : List Event) :
    (events.map merged.place).filter (·.process = process) =
      (events.filter (·.process = process)).map merged.place := by
  rw [List.filter_map]
  simp only [Function.comp_def, process_place]

/-- The other events do not matter for the sort. -/
theorem part_ofEvents (timed : ∀ event ∈ viewer ++ layer, event.IsTimed) (process : UInt32) :
    (ofEvents viewer layer).part process =
      (((viewer ++ layer).filter (·.process = process)).map
        (ofEvents viewer layer).place).mergeSort inOrder := by
  have placed := isTimed_of_mem_map_place timed (List.Subset.refl _)
  rw [part, events_ofEvents, mergeSort_inOrder placed, filter_mergeSort, ← filter_map_place,
    mergeSort_inOrder fun event mem => placed event (List.mem_of_mem_filter mem)]

theorem filter_process_append (ne : process ≠ other)
    (hv : ∀ event ∈ viewer, event.process = process) (hl : ∀ event ∈ layer, event.process = other) :
    (viewer ++ layer).filter (·.process = process) = viewer ∧
      (viewer ++ layer).filter (·.process = other) = layer := by
  rw [List.filter_append, List.filter_append]
  constructor
  · rw [List.filter_eq_self.mpr fun event mem => decide_eq_true (hv event mem),
      List.filter_eq_nil_iff.mpr fun event mem => by simpa [hl event mem] using ne.symm,
      List.append_nil]
  · rw [List.filter_eq_self.mpr fun event mem => decide_eq_true (hl event mem),
      List.filter_eq_nil_iff.mpr fun event mem => by simpa [hv event mem] using ne,
      List.nil_append]

theorem parts_ofEvents (hv : ∀ event ∈ viewer, event.process = viewerProcess)
    (hl : ∀ event ∈ layer, event.process = layerProcess)
    (timed : ∀ event ∈ viewer ++ layer, event.IsTimed) :
    (ofEvents viewer layer).part viewerProcess =
        (viewer.map (ofEvents viewer layer).place).mergeSort inOrder ∧
      (ofEvents viewer layer).part layerProcess =
        (layer.map (ofEvents viewer layer).place).mergeSort inOrder := by
  obtain ⟨first, second⟩ := filter_process_append (by decide) hv hl
  rw [part_ofEvents timed, part_ofEvents timed, first, second]
  exact ⟨rfl, rfl⟩

/-- Both merges move their times, or neither does, and by the same shift. -/
structure MoveAlike (viewer layer viewer' layer' : List Event) : Prop where
  shift : (ofEvents viewer layer).shift = (ofEvents viewer' layer').shift
  early : (∃ event ∈ viewer ++ layer, event.moment < 0) ↔
    ∃ event ∈ viewer' ++ layer', event.moment < 0

theorem MoveAlike.place_eq (alike : MoveAlike viewer layer viewer' layer')
    (timed : ∀ event ∈ viewer ++ layer, event.IsTimed)
    (timed' : ∀ event ∈ viewer' ++ layer', event.IsTimed) :
    (ofEvents viewer layer).place = (ofEvents viewer' layer').place := by
  funext event
  by_cases early : ∃ event ∈ viewer ++ layer, event.moment < 0
  · rw [place_of_early timed early, place_of_early timed' (alike.early.mp early), alike.shift]
  · have early' := mt alike.early.mpr early
    push Not at early early'
    rw [(place_of_late timed early).2, (place_of_late timed' early').2]

theorem exists_stableOrder_place (timed : ∀ event ∈ viewer ++ layer, event.IsTimed)
    (sub : events ⊆ viewer ++ layer) :
    ∃ moved, Displaced (viewer ++ layer) (ofEvents viewer layer).shift events moved ∧
      ∃ order, StableOrder moved order ∧
        (events.map (ofEvents viewer layer).place).mergeSort inOrder = order.map moved.get :=
  ⟨_, displaced_place timed sub, exists_stableOrder (isTimed_of_mem_map_place timed sub)⟩

end MergedTimeline

open MergedTimeline

/-- In a merge, neither trace has a say in the events of the other but for the shift. The events of
either trace are that trace alone, moved and stably sorted by time; so in two merges that move their
times alike, a trace that both have comes out as the same events at the same times in the same
order, whatever it was merged with. -/
theorem traces_undisturbed {viewer viewer' layer layer' : List Event}
    (hv : ∀ event ∈ viewer ++ viewer', event.process = viewerProcess)
    (hl : ∀ event ∈ layer ++ layer', event.process = layerProcess)
    (timed : ∀ event ∈ viewer ++ viewer' ++ (layer ++ layer'), event.IsTimed) :
    (MoveAlike viewer layer viewer layer' →
      (ofEvents viewer layer).part viewerProcess = (ofEvents viewer layer').part viewerProcess) ∧
    (MoveAlike viewer layer viewer' layer →
      (ofEvents viewer layer).part layerProcess = (ofEvents viewer' layer).part layerProcess) ∧
    let merged := ofEvents viewer layer
    (∃ moved, Displaced (viewer ++ layer) merged.shift viewer moved ∧
      ∃ order, StableOrder moved order ∧ merged.part viewerProcess = order.map moved.get) ∧
    ∃ moved, Displaced (viewer ++ layer) merged.shift layer moved ∧
      ∃ order, StableOrder moved order ∧ merged.part layerProcess = order.map moved.get := by
  simp only [List.mem_append, or_imp, forall_and] at hv hl timed
  obtain ⟨⟨timedViewer, timedViewer'⟩, timedLayer, timedLayer'⟩ := timed
  have both (a b : List Event) (ha : ∀ event ∈ a, event.IsTimed)
      (hb : ∀ event ∈ b, event.IsTimed) : ∀ event ∈ a ++ b, event.IsTimed :=
    fun event mem => (List.mem_append.mp mem).elim (ha event) (hb event)
  have timed := both viewer layer timedViewer timedLayer
  obtain ⟨first, second⟩ := parts_ofEvents hv.1 hl.1 timed
  refine ⟨fun alike => ?_, fun alike => ?_, ?_⟩
  · have timed' := both viewer layer' timedViewer timedLayer'
    rw [first, (parts_ofEvents hv.1 hl.2 timed').1, alike.place_eq timed timed']
  · have timed' := both viewer' layer timedViewer' timedLayer
    rw [second, (parts_ofEvents hv.2 hl.1 timed').2, alike.place_eq timed timed']
  · intro merged
    simp only [merged, first, second]
    exact ⟨exists_stableOrder_place timed (List.subset_append_left _ _),
      exists_stableOrder_place timed (List.subset_append_right _ _)⟩

/-- A viewer that begins early, merged with two layers that have nothing in common. -/
theorem traces_undisturbed_early :
    let viewer : List Event :=
      [.sample "frame" viewerProcess 1 (microseconds (-5000)) .zero,
        .span "draw" viewerProcess 1 (microseconds (-7000)) .zero]
    let layer : List Event := [.span "copy" layerProcess 1 (microseconds (-7000)) .zero]
    let layer' : List Event :=
      [.threadName layerProcess 2 "layer-thread-2", .sample "stamp" layerProcess 2 .zero .zero]
    MoveAlike viewer layer viewer layer' ∧
      (ofEvents viewer layer).part viewerProcess = (ofEvents viewer layer').part viewerProcess := by
  intro viewer layer layer'
  have alike : MoveAlike viewer layer viewer layer' := ⟨by decide +kernel, by decide +kernel⟩
  refine ⟨alike, (@traces_undisturbed viewer viewer layer layer' ?_ ?_ ?_).1 alike⟩
  · simp [viewer, Event.process]
  · simp [layer, layer', Event.process]
  · have number (ns : Int64) : (microseconds ns).isNaN = false :=
      Binary64.isNaN_eq_false (isFinite_microseconds ns)
    have zero : Binary64.zero.isNaN = false := rfl
    simp [viewer, layer, layer', Event.IsTimed, Event.key, number, zero]

end TraceWeave
