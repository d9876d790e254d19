import TraceWeave.Proofs.Monotone
import TraceWeave.Proofs.Row

/-! The order of time, from the texts of two exports to the merged timeline.

Times are read from decimal texts, shifted, counted in microseconds and moved by the normalization,
and each of these steps rounds or stops at an end of its range. None of them turns two times around
(`time_order_kept`). -/

namespace TraceWeave

open Binary64

/-! ### Times as they are read -/

theorem readNanoseconds?_eq_some {text : String} {ns : Int64}
    (h : readNanoseconds? text = some ns) :
    ∃ n, Numeral.read? text.toList = some n ∧ n.nearest.isFinite = true ∧
      n.nearest.truncate = ns := by
  obtain ⟨x, read, rfl⟩ := Option.map_eq_some_iff.mp h
  simp only [readReal?, readFinite?, Option.bind_eq_bind, Option.bind_eq_some_iff] at read
  obtain ⟨n, read, found⟩ := read
  split at found
  case isTrue finite => cases found; exact ⟨n, read, finite, rfl⟩
  case isFalse => cases found

theorem readNanoseconds?_mono {text text' : String} {ns ns' : Int64} {q q' : ℚ}
    (h : readNanoseconds? text = some ns) (h' : readNanoseconds? text' = some ns')
    (denotes : Numeral.Denotes text.toList q) (denotes' : Numeral.Denotes text'.toList q')
    (le : q ≤ q') : ns.toInt ≤ ns'.toInt := by
  obtain ⟨n, read, finite, rfl⟩ := readNanoseconds?_eq_some h
  obtain ⟨n', read', finite', rfl⟩ := readNanoseconds?_eq_some h'
  obtain ⟨m, same, rfl⟩ := Numeral.read?_of_denotes denotes
  obtain ⟨m', same', rfl⟩ := Numeral.read?_of_denotes denotes'
  obtain rfl : n = m := Option.some.inj (read.symm.trans same)
  obtain rfl : n' = m' := Option.some.inj (read'.symm.trans same')
  exact truncate_mono (Numeral.isUnits_nearest finite) (Numeral.isUnits_nearest finite')
    (Numeral.scaled_nearest_mono finite finite' le)

namespace Occurrence

variable {rows : List Row} {row : Row} {found : Occurrence} {process : UInt32} {shift : Int64}
  {role : String}

def time : Occurrence → Int64
  | .zone z => z.start
  | .plot p => p.time

def event (process : UInt32) (shift : Int64) : Occurrence → Event
  | .zone z => Timeline.spanOf process shift z
  | .plot p => Timeline.sampleOf process shift p

theorem time?_event (process : UInt32) (shift : Int64) (found : Occurrence) :
    (found.event process shift).time? = some (microseconds (Clamped.add found.time shift)) := by
  cases found <;> rfl

theorem event_mem_ofTrace (mem : row ∈ rows) (stands : row.occurrence? = some found) :
    found.event process shift ∈ (Timeline.ofTrace (.ofRows rows) process shift role).events := by
  have decoded : found ∈ rows.filterMap Row.occurrence? := List.mem_filterMap.mpr ⟨row, mem, stands⟩
  rw [Timeline.mem_ofTrace]
  cases found with
  | zone z => exact .inl ⟨z, List.mem_filterMap.mpr ⟨_, decoded, rfl⟩, rfl⟩
  | plot p => exact .inr (.inl ⟨p, List.mem_filterMap.mpr ⟨_, decoded, rfl⟩, rfl⟩)

end Occurrence

theorem Row.readNanoseconds?_of_occurrence? {row : Row} {found : Occurrence}
    (h : row.occurrence? = some found) :
    readNanoseconds? (row.field Column.time) = some found.time := by
  cases standsFor_of_occurrence? h with
  | zone read => exact read
  | plot read => exact read

/-! ### Times in the merge -/

namespace MergedTimeline

/-- Both events are in the merged timeline, the first at no later time than the second. -/
def NoLater (merged : MergedTimeline) (a b : Event) : Prop :=
  merged.place a ∈ merged.events ∧ merged.place b ∈ merged.events ∧
    ∃ s t, (merged.place a).time? = some s ∧ (merged.place b).time? = some t ∧
      s.isFinite = true ∧ t.isFinite = true ∧ s.scaled ≤ t.scaled

variable {viewer layer : List Event} {a b : Event} {s t : Int64}

theorem noLater_of_le (ha : a ∈ viewer ++ layer) (hb : b ∈ viewer ++ layer)
    (time : a.time? = some (microseconds s)) (time' : b.time? = some (microseconds t))
    (le : s.toInt ≤ t.toInt) : (ofEvents viewer layer).NoLater a b := by
  refine ⟨mem_events.mpr ⟨a, ha, rfl⟩, mem_events.mpr ⟨b, hb, rfl⟩, ?_⟩
  unfold place
  split
  case h_1 n _ =>
    rw [Event.time?_delay, Event.time?_delay, time, time']
    exact ⟨_, _, rfl, rfl, (isFinite_add_microseconds s n.shift).1,
      (isFinite_add_microseconds t n.shift).1, scaled_add_microseconds_mono n.shift le⟩
  case h_2 =>
    exact ⟨_, _, time, time', isFinite_microseconds s, isFinite_microseconds t,
      scaled_microseconds_mono le⟩

end MergedTimeline

inductive Side where
  | viewer
  | layer

namespace Side

def process : Side → UInt32
  | .viewer => viewerProcess
  | .layer => layerProcess

def shift (layerShift : Int64) : Side → Int64
  | .viewer => 0
  | .layer => layerShift

end Side

theorem Weave.event_mem (rows : Side → List Row) (layerShift : Int64) {side : Side} {row : Row}
    {found : Occurrence} (mem : row ∈ rows side) (stands : row.occurrence? = some found) :
    found.event side.process (side.shift layerShift) ∈
      (Timeline.ofTrace (.ofRows (rows .viewer)) viewerProcess 0 viewerRole).events ++
        (Timeline.ofTrace (.ofRows (rows .layer)) layerProcess layerShift layerRole).events := by
  cases side with
  | viewer => exact List.mem_append_left _ (Occurrence.event_mem_ofTrace mem stands)
  | layer => exact List.mem_append_right _ (Occurrence.event_mem_ofTrace mem stands)

/-- Whatever the rows of the two traces and the shift of the layer, the merge keeps the order of
time. Within one trace it is the order of the numbers that the texts denote, across the traces that
of the shifted nanoseconds. -/
theorem time_order_kept (rows : Side → List Row) (layerShift : Int64) :
    let merged :=
      (Weave.ofTraces (.ofRows (rows .viewer)) (.ofRows (rows .layer)) layerShift).merged
    let eventOf (side : Side) (found : Occurrence) : Event :=
      found.event side.process (side.shift layerShift)
    (∀ side, ∀ row ∈ rows side, ∀ row' ∈ rows side, ∀ found found',
      row.occurrence? = some found → row'.occurrence? = some found' →
      ∀ q q', Numeral.Denotes (row.field Column.time).toList q →
        Numeral.Denotes (row'.field Column.time).toList q' → q ≤ q' →
      merged.NoLater (eventOf side found) (eventOf side found')) ∧
    ∀ side side', ∀ row ∈ rows side, ∀ row' ∈ rows side', ∀ found found',
      row.occurrence? = some found → row'.occurrence? = some found' →
      (Clamped.add found.time (side.shift layerShift)).toInt ≤
        (Clamped.add found'.time (side'.shift layerShift)).toInt →
      merged.NoLater (eventOf side found) (eventOf side' found') := by
  intro merged eventOf
  have shifted (side side' : Side) (row : Row) (mem : row ∈ rows side) (row' : Row)
      (mem' : row' ∈ rows side') (found found' : Occurrence)
      (stands : row.occurrence? = some found) (stands' : row'.occurrence? = some found')
      (le : (Clamped.add found.time (side.shift layerShift)).toInt ≤
        (Clamped.add found'.time (side'.shift layerShift)).toInt) :
      merged.NoLater (eventOf side found) (eventOf side' found') :=
    MergedTimeline.noLater_of_le
      (Weave.event_mem rows layerShift mem stands) (Weave.event_mem rows layerShift mem' stands')
      (Occurrence.time?_event _ _ found) (Occurrence.time?_event _ _ found') le
  refine ⟨?_, shifted⟩
  intro side row mem row' mem' found found' stands stands' q q' denotes denotes' le
  have read := Row.readNanoseconds?_of_occurrence? stands
  have read' := Row.readNanoseconds?_of_occurrence? stands'
  have times := readNanoseconds?_mono read read' denotes denotes' le
  exact shifted side side row mem row' mem' found found' stands stands'
    (Clamped.add_mono (side.shift layerShift) times)

def Row.ofZone (time : String) : Row :=
  .ofPairs [(Column.name, "draw"), (Column.time, time), (Column.duration, "1")]

/-- A layer that begins before the viewer, with its later time first. -/
theorem time_order_kept_decimals :
    let rows : Side → List Row
      | .viewer => []
      | .layer => [.ofZone "+2000.75", .ofZone "1e3"]
    let merged :=
      (Weave.ofTraces (.ofRows (rows .viewer)) (.ofRows (rows .layer)) (-5000)).merged
    Numeral.Denotes "1e3".toList 1000 ∧ Numeral.Denotes "+2000.75".toList 2000.75 ∧
      merged.NoLater (Timeline.spanOf layerProcess (-5000) ⟨"draw", 1000, 1, 0⟩)
        (Timeline.spanOf layerProcess (-5000) ⟨"draw", 2000, 1, 0⟩) := by
  intro rows merged
  have early : Numeral.Denotes "1e3".toList 1000 := by
    have exponent : Numeral.WritesExponent ['e', '3'] 3 :=
      .given (.inl rfl) (.parts .none ⟨by simp, by simp⟩)
    have whole : ∀ c ∈ ['1'], c.isDigit = true := by simp
    have written := Numeral.Writes.parts .none whole .absent (.inl (by simp)) exponent
    have digits : Numeral.ofDigits ['1'] = 1 ∧ Numeral.ofDigits [] = 0 := by decide
    convert Numeral.Denotes.positive written using 1
    · rfl
    · norm_num [digits]
  have late : Numeral.Denotes "+2000.75".toList 2000.75 := by
    have whole : ∀ c ∈ ['2', '0', '0', '0'], c.isDigit = true := by simp
    have fraction : Numeral.WritesFraction ['.', '7', '5'] ['7', '5'] := .given (by simp)
    have written := Numeral.Writes.parts .plus whole fraction (.inl (by simp)) .absent
    have digits : Numeral.ofDigits ['2', '0', '0', '0'] = 2000 ∧ Numeral.ofDigits ['7', '5'] = 75 := by
      decide
    convert Numeral.Denotes.positive written using 1
    · rfl
    · norm_num [digits]
  refine ⟨early, late, ?_⟩
  have field (time : String) (h : (Row.ofZone time).field Column.time = time) {q : ℚ}
      (denotes : Numeral.Denotes time.toList q) :
      Numeral.Denotes ((Row.ofZone time).field Column.time).toList q := by rwa [h]
  exact (time_order_kept rows (-5000)).1 .layer (.ofZone "1e3") (by simp [rows])
    (.ofZone "+2000.75") (by simp [rows]) (.zone ⟨"draw", 1000, 1, 0⟩) (.zone ⟨"draw", 2000, 1, 0⟩)
    (by decide +kernel) (by decide +kernel) 1000 2000.75 (field _ (by decide +kernel) early)
    (field _ (by decide +kernel) late) (by norm_num)

end TraceWeave
