import Mathlib.Order.Bounds.Basic
import TraceWeave.Proofs.Marker

/-! The index of a marker is the map from frames to the times of their first samples, and nothing else
can be seen in it (`first_samples_indexed`).

What follows in a list of samples only counts for frames that did not occur before
(`time?_ofPlots_append`). Indices are compared by what they give for each frame, and the frames that
two of them share make up a set, of which the smallest shared frame is the least element
(`smallestShared?_eq_some_iff_isLeast_shared`). -/

namespace TraceWeave.MarkerIndex

variable {a b : MarkerIndex} {name : String} {frame : Int64} {plots : List Plot}

theorem time?_ofPlots_append (plots more : List Plot) (name : String) (frame : Int64) :
    (ofPlots (plots ++ more) name).time? frame =
      ((ofPlots plots name).time? frame).or ((ofPlots more name).time? frame) := by
  rw [time?_ofPlots, time?_ofPlots, time?_ofPlots, List.find?_append, Option.map_or]

theorem length_frames (index : MarkerIndex) : index.frames.length = index.size :=
  Std.ExtTreeMap.length_keys

theorem mem_frames_ofPlots_iff : frame ∈ (ofPlots plots name).frames ↔
    ∃ plot ∈ plots, plot.name = name ∧ frameNumber? plot.value = some frame := by
  rw [mem_frames_iff, time?_ofPlots, Option.isSome_map, List.find?_isSome]
  simp only [marks, decide_eq_true_eq]

theorem eq_iff_time? : a = b ↔ ∀ frame, a.time? frame = b.time? frame :=
  ⟨fun same _ => same ▸ rfl, ext_time?⟩

/-! ### Shared frames -/

def shared (a b : MarkerIndex) : Set Int64 :=
  {frame | (a.time? frame).isSome ∧ (b.time? frame).isSome}

theorem shared_comm (a b : MarkerIndex) : a.shared b = b.shared a :=
  Set.ext fun _ => and_comm

theorem smallestShared?_eq_some_iff_isLeast_shared :
    a.smallestShared? b = some frame ↔ IsLeast (a.shared b) frame := by
  rw [smallestShared?_eq_some_iff, ← and_assoc]
  exact and_congr_right fun _ => ⟨fun least f mem => least f mem.1 mem.2,
    fun least f ha hb => least ⟨ha, hb⟩⟩

theorem smallestShared?_eq_none_iff_shared : a.smallestShared? b = none ↔ a.shared b = ∅ := by
  rw [smallestShared?_eq_none_iff, Set.eq_empty_iff_forall_notMem]
  exact forall_congr' fun frame => not_and.symm

theorem smallestShared?_comm (a b : MarkerIndex) : a.smallestShared? b = b.smallestShared? a := by
  refine Option.ext fun frame => ?_
  rw [smallestShared?_eq_some_iff_isLeast_shared, smallestShared?_eq_some_iff_isLeast_shared,
    shared_comm]

/-- An index gives each frame the time of the first sample of its marker that names the frame, and no
time if there is none. It lists these frames once each, in ascending order. Samples that come later
in a list never change a time. Indices are the same if they give each frame the same time, whatever
they were made from. The smallest shared frame is the least that two indices give a time, from
whichever of them it is sought. -/
theorem first_samples_indexed :
    (∀ (plots : List Plot) (name : String),
      let index := ofPlots plots name
      (∀ frame, index.time? frame = (plots.find? fun plot =>
        plot.name = name ∧ frameNumber? plot.value = some frame).map (·.time)) ∧
      index.frames.Pairwise (· < ·) ∧
      (∀ frame, frame ∈ index.frames ↔
        ∃ plot ∈ plots, plot.name = name ∧ frameNumber? plot.value = some frame) ∧
      index.size = index.frames.length ∧
      ∀ (more : List Plot) (frame : Int64), (ofPlots (plots ++ more) name).time? frame =
        (index.time? frame).or ((ofPlots more name).time? frame)) ∧
    (∀ (plots plots' : List Plot) (name name' : String), ofPlots plots name = ofPlots plots' name' ↔
      ∀ frame, (ofPlots plots name).time? frame = (ofPlots plots' name').time? frame) ∧
    ∀ a b : MarkerIndex,
      (∀ frame, a.smallestShared? b = some frame ↔ IsLeast (a.shared b) frame) ∧
      (a.smallestShared? b = none ↔ a.shared b = ∅) ∧
      a.smallestShared? b = b.smallestShared? a := by
  refine ⟨?built, ?equal, ?shared⟩
  case built =>
    intro plots name
    refine ⟨time?_ofPlots plots name, pairwise_frames _, ?listed, (length_frames _).symm, ?later⟩
    case listed =>
      intro frame
      exact mem_frames_ofPlots_iff
    case later =>
      intro more frame
      exact time?_ofPlots_append plots more name frame
  case equal =>
    intro plots plots' name name'
    exact eq_iff_time?
  case shared =>
    intro a b
    refine ⟨?least, smallestShared?_eq_none_iff_shared, smallestShared?_comm a b⟩
    case least =>
      intro frame
      exact smallestShared?_eq_some_iff_isLeast_shared

end TraceWeave.MarkerIndex
