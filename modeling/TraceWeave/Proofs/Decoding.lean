import TraceWeave.Proofs.Blank
import TraceWeave.Proofs.Field
import TraceWeave.Proofs.Row

/-! What each row of an export is decoded to.

A row shows a zone or a plot by what its fields write (`Row.ShowsZone`, `Row.ShowsPlot`), and what
the zone or the plot has is written there too (`Row.CarriesZone`, `Row.CarriesPlot`). No row shows
both. A trace is decoded row by row (`decoding_by_row`). -/

namespace TraceWeave

/-! ### Rows -/

namespace Column

def all : List String := [name, time, duration, value, thread]

end Column

namespace Row

variable {row other : Row} {z : Zone} {p : Plot}

structure ShowsZone (row : Row) : Prop where
  time : IsReal (row.field Column.time)
  given : row.field Column.duration ≠ ""
  duration : IsReal (row.field Column.duration)
  named : row.field Column.name ≠ ""

structure ShowsPlot (row : Row) : Prop where
  time : IsReal (row.field Column.time)
  absent : row.field Column.duration = ""
  named : row.field Column.name ≠ ""
  given : row.field Column.value ≠ ""
  value : IsReal (row.field Column.value)

/-- What the fields of a row write is what the zone has. -/
structure CarriesZone (row : Row) (z : Zone) : Prop where
  name : z.name = row.field Column.name
  start : WritesTime (row.field Column.time) z.start
  duration : WritesTime (row.field Column.duration) z.duration
  thread : WritesThread (row.field Column.thread) z.thread

structure CarriesPlot (row : Row) (p : Plot) : Prop where
  name : p.name = row.field Column.name
  time : WritesTime (row.field Column.time) p.time
  value : Numeral.WritesReal (row.field Column.value).toList p.value
  thread : WritesThread (row.field Column.thread) p.thread

theorem occurrence?_eq_zone_iff :
    row.occurrence? = some (.zone z) ↔ row.ShowsZone ∧ row.CarriesZone z := by
  constructor
  · intro found
    cases standsFor_of_occurrence? found with
    | zone time given duration named =>
      have start := readNanoseconds?_eq_some_iff.mp time
      have length := readNanoseconds?_eq_some_iff.mp duration
      refine ⟨⟨start.isReal, given, length.isReal, named⟩, ⟨rfl, start, length, ?_⟩⟩
      dsimp only
      exact writesThread_readThread _
  · rintro ⟨shows, carries⟩
    have named : z.name ≠ "" := by
      rw [carries.name]
      exact shows.named
    have start := readNanoseconds?_eq_some_iff.mpr carries.start
    have length := readNanoseconds?_eq_some_iff.mpr carries.duration
    have thread := readThread_eq_iff.mpr carries.thread
    exact occurrence?_eq_zone named carries.name.symm start length thread

theorem occurrence?_eq_plot_iff :
    row.occurrence? = some (.plot p) ↔ row.ShowsPlot ∧ row.CarriesPlot p := by
  constructor
  · intro found
    cases standsFor_of_occurrence? found with
    | plot time absent given value named =>
      have start := readNanoseconds?_eq_some_iff.mp time
      have written := readReal?_eq_some_iff.mp value
      refine ⟨⟨start.isReal, absent, named, given, _, written⟩, ⟨rfl, start, written, ?_⟩⟩
      dsimp only
      exact writesThread_readThread _
  · rintro ⟨shows, carries⟩
    have named : p.name ≠ "" := by
      rw [carries.name]
      exact shows.named
    have start := readNanoseconds?_eq_some_iff.mpr carries.time
    have value := readReal?_eq_some_iff.mpr carries.value
    have thread := readThread_eq_iff.mpr carries.thread
    exact occurrence?_eq_plot named carries.name.symm start shows.absent value thread

theorem ShowsZone.exists_carries (h : row.ShowsZone) : ∃ z, row.CarriesZone z := by
  obtain ⟨start, time⟩ := exists_writesTime h.time
  obtain ⟨length, duration⟩ := exists_writesTime h.duration
  obtain ⟨number, thread⟩ := exists_writesThread (row.field Column.thread)
  exact ⟨⟨_, start, length, number⟩, rfl, time, duration, thread⟩

theorem ShowsPlot.exists_carries (h : row.ShowsPlot) : ∃ p, row.CarriesPlot p := by
  obtain ⟨start, time⟩ := exists_writesTime h.time
  obtain ⟨x, value⟩ := h.value
  obtain ⟨number, thread⟩ := exists_writesThread (row.field Column.thread)
  exact ⟨⟨_, start, x, number⟩, rfl, time, value, thread⟩

theorem occurrence?_congr (same : ∀ column ∈ Column.all, row.field column = other.field column) :
    row.occurrence? = other.occurrence? := by
  simp only [Column.all, List.forall_mem_cons] at same
  obtain ⟨name, time, duration, value, thread, -⟩ := same
  rw [occurrence?, occurrence?, name, time, duration, value, thread]

theorem field_insert_of_ne {column text c : String} (h : c ≠ column) :
    (row.insert c text).field column = row.field column := by
  rw [field, get?_insert, if_neg h, field]

theorem field_insert_padded {before after : List Char} {text : String} (column c : String)
    (blank : ∀ d ∈ before ++ after, Text.isBlank d = true) :
    (row.insert column (String.ofList (before ++ (text.toList ++ after)))).field c =
      (row.insert column text).field c := by
  rw [field, field, get?_insert, get?_insert]
  split
  · exact Text.trim_padded blank text
  · rfl

end Row

/-! ### Traces -/

namespace Trace

variable {row : Row} {z : Zone} {p : Plot}

theorem ofRows_append (rows more : List Row) : ofRows (rows ++ more) =
    ⟨(ofRows rows).zones ++ (ofRows more).zones, (ofRows rows).plots ++ (ofRows more).plots⟩ := by
  simp only [ofRows, List.filterMap_append]

theorem ofRows_eq_flatMap (rows : List Row) : ofRows rows =
    ⟨rows.flatMap fun row => (ofRows [row]).zones,
      rows.flatMap fun row => (ofRows [row]).plots⟩ := by
  induction rows with
  | nil => rfl
  | cons row rows ih =>
    have first := ofRows_append [row] rows
    rw [List.singleton_append, ih] at first
    rw [first, List.flatMap_cons, List.flatMap_cons]

theorem ofRows_of_none (h : row.occurrence? = none) : ofRows [row] = ⟨[], []⟩ := by
  simp [ofRows, h]

theorem ofRows_of_zone (h : row.occurrence? = some (.zone z)) : ofRows [row] = ⟨[z], []⟩ := by
  simp [ofRows, h, Occurrence.zone?, Occurrence.plot?]

theorem ofRows_of_plot (h : row.occurrence? = some (.plot p)) : ofRows [row] = ⟨[], [p]⟩ := by
  simp [ofRows, h, Occurrence.zone?, Occurrence.plot?]

theorem ofRows_congr {other : Row}
    (same : ∀ column ∈ Column.all, row.field column = other.field column) :
    ofRows [row] = ofRows [other] := by
  simp only [ofRows, List.filterMap_cons, Row.occurrence?_congr same]

/-- What a row shows is decided by what it stands for. -/
theorem shows_cases (row : Row) :
    (∃ z, ofRows [row] = ⟨[z], []⟩ ∧ row.ShowsZone ∧ row.CarriesZone z ∧ ¬ row.ShowsPlot) ∨
    (∃ p, ofRows [row] = ⟨[], [p]⟩ ∧ row.ShowsPlot ∧ row.CarriesPlot p ∧ ¬ row.ShowsZone) ∨
    ofRows [row] = ⟨[], []⟩ ∧ ¬ row.ShowsZone ∧ ¬ row.ShowsPlot := by
  cases found : row.occurrence? with
  | none =>
    refine .inr (.inr ⟨ofRows_of_none found, fun shows => ?_, fun shows => ?_⟩)
    · obtain ⟨z, carries⟩ := shows.exists_carries
      rw [Row.occurrence?_eq_zone_iff.mpr ⟨shows, carries⟩] at found
      cases found
    · obtain ⟨p, carries⟩ := shows.exists_carries
      rw [Row.occurrence?_eq_plot_iff.mpr ⟨shows, carries⟩] at found
      cases found
  | some occurrence =>
    cases occurrence with
    | zone z =>
      obtain ⟨shows, carries⟩ := Row.occurrence?_eq_zone_iff.mp found
      exact .inl ⟨z, ofRows_of_zone found, shows, carries, fun plot => shows.given plot.absent⟩
    | plot p =>
      obtain ⟨shows, carries⟩ := Row.occurrence?_eq_plot_iff.mp found
      exact .inr (.inl ⟨p, ofRows_of_plot found, shows, carries,
        fun zone => zone.given shows.absent⟩)

theorem showsZone_iff :
    row.ShowsZone ↔ ∃ z, row.CarriesZone z ∧ ofRows [row] = ⟨[z], []⟩ := by
  rcases shows_cases row with ⟨z, found, shows, carries, -⟩ | ⟨p, found, -, -, none⟩ |
    ⟨found, none, -⟩
  · exact ⟨fun _ => ⟨z, carries, found⟩, fun _ => shows⟩
  · simp [found, none]
  · simp [found, none]

theorem showsPlot_iff :
    row.ShowsPlot ↔ ∃ p, row.CarriesPlot p ∧ ofRows [row] = ⟨[], [p]⟩ := by
  rcases shows_cases row with ⟨z, found, -, -, none⟩ | ⟨p, found, shows, carries, -⟩ |
    ⟨found, -, none⟩
  · simp [found, none]
  · exact ⟨fun _ => ⟨p, carries, found⟩, fun _ => shows⟩
  · simp [found, none]

theorem shows_nothing_iff :
    ¬ row.ShowsZone ∧ ¬ row.ShowsPlot ↔ ofRows [row] = ⟨[], []⟩ := by
  rcases shows_cases row with ⟨z, found, shows, -⟩ | ⟨p, found, shows, -⟩ | ⟨found, none⟩
  · simp [found, shows]
  · simp [found, shows]
  · exact ⟨fun _ => found, fun _ => none⟩

end Trace

/-- A list of rows is decoded row by row, so no row has a say in what another one gives. A row gives
one zone exactly if its time and its duration write finite numbers and it has a name; it gives one
plot exactly if its time and its value do, it has a name and it has no duration; otherwise it gives
nothing. What it gives is what its fields write. A field is the text of its column without the blanks
at the ends, and besides the five fields nothing of a row counts. -/
theorem decoding_by_row (rows more : List Row) (row : Row) :
    Trace.ofRows rows = ⟨rows.flatMap fun row => (Trace.ofRows [row]).zones,
      rows.flatMap fun row => (Trace.ofRows [row]).plots⟩ ∧
    Trace.ofRows (rows ++ more) = ⟨(Trace.ofRows rows).zones ++ (Trace.ofRows more).zones,
      (Trace.ofRows rows).plots ++ (Trace.ofRows more).plots⟩ ∧
    (row.ShowsZone ↔ ∃ z, row.CarriesZone z ∧ Trace.ofRows [row] = ⟨[z], []⟩) ∧
    (row.ShowsPlot ↔ ∃ p, row.CarriesPlot p ∧ Trace.ofRows [row] = ⟨[], [p]⟩) ∧
    (¬ row.ShowsZone ∧ ¬ row.ShowsPlot ↔ Trace.ofRows [row] = ⟨[], []⟩) ∧
    (∀ column, Text.Trims ((row.get? column).getD "") (row.field column)) ∧
    (∀ other : Row, (∀ column ∈ Column.all, row.field column = other.field column) →
      Trace.ofRows [row] = Trace.ofRows [other]) ∧
    (∀ column text, column ∉ Column.all →
      Trace.ofRows [row.insert column text] = Trace.ofRows [row]) ∧
    ∀ column text before after, (∀ c ∈ before ++ after, Text.isBlank c = true) →
      Trace.ofRows [row.insert column (String.ofList (before ++ (text.toList ++ after)))] =
        Trace.ofRows [row.insert column text] := by
  refine ⟨Trace.ofRows_eq_flatMap rows, Trace.ofRows_append rows more, Trace.showsZone_iff,
    Trace.showsPlot_iff, Trace.shows_nothing_iff, fun column => Text.trims_trim _,
    fun other same => Trace.ofRows_congr same, fun column text unread => ?_,
    fun column text before after blank => ?_⟩
  · refine Trace.ofRows_congr fun c mem => Row.field_insert_of_ne ?_
    rintro rfl
    exact unread mem
  · exact Trace.ofRows_congr fun c _ => Row.field_insert_padded column c blank

/-- A column that is not read, and blanks of several kinds around a name. -/
theorem decoding_by_row_padded :
    let row := Row.ofPairs [(Column.time, "12"), (Column.duration, "3.5"), (Column.thread, "x")]
    Trace.ofRows [row.insert "source" "main.c"] = Trace.ofRows [row] ∧
      Trace.ofRows [row.insert Column.name " \t draw\n"] =
        Trace.ofRows [row.insert Column.name "draw"] := by
  intro row
  obtain ⟨-, -, -, -, -, -, -, unread, padded⟩ := decoding_by_row [] [] row
  refine ⟨unread "source" "main.c" (by decide), ?_⟩
  exact padded Column.name "draw" [' ', '\t', ' '] ['\n'] (List.all_eq_true.mp (by decide))

end TraceWeave
