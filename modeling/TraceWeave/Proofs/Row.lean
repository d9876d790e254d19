import Mathlib.Data.List.Basic
import TraceWeave.Trace

/-! What a row stands for, field by field: the rows that are zones and those that are plots
(`occurrence?_eq_some_iff`). -/

namespace TraceWeave.Row

variable {row : Row} {found : Occurrence}

/-- The fields that make a row a zone, or a plot. All other rows stand for nothing. -/
inductive StandsFor (row : Row) : Occurrence → Prop where
  | zone {time duration : Int64} : readNanoseconds? (row.field Column.time) = some time →
      row.field Column.duration ≠ "" →
      readNanoseconds? (row.field Column.duration) = some duration → row.field Column.name ≠ "" →
      StandsFor row (.zone ⟨row.field Column.name, time, duration,
        readThread (row.field Column.thread)⟩)
  | plot {time : Int64} {value : Binary64} :
      readNanoseconds? (row.field Column.time) = some time → row.field Column.duration = "" →
      row.field Column.value ≠ "" → readReal? (row.field Column.value) = some value →
      row.field Column.name ≠ "" →
      StandsFor row (.plot ⟨row.field Column.name, time, value,
        readThread (row.field Column.thread)⟩)

theorem occurrence?_of_standsFor (h : row.StandsFor found) : row.occurrence? = some found := by
  cases h with
  | zone time duration read name => simp [occurrence?, time, duration, read, name]
  | plot time duration value read name => simp [occurrence?, time, duration, value, read, name]

theorem standsFor_of_occurrence? (h : row.occurrence? = some found) : row.StandsFor found := by
  simp only [occurrence?, Option.bind_eq_bind, Option.bind_eq_some_iff] at h
  obtain ⟨time, read, h⟩ := h
  split at h
  case isTrue some =>
    obtain ⟨duration, readDuration, h⟩ := Option.bind_eq_some_iff.mp h
    split at h
    case isTrue => cases h
    case isFalse name =>
      cases h
      exact .zone read some readDuration name
  case isFalse none =>
    split at h
    case isTrue => cases h
    case isFalse texts =>
      obtain ⟨value, readValue, h⟩ := Option.bind_eq_some_iff.mp h
      obtain ⟨valueText, name⟩ := not_or.mp texts
      cases h
      exact .plot read (not_not.mp none) valueText readValue name

theorem occurrence?_eq_some_iff : row.occurrence? = some found ↔ row.StandsFor found :=
  ⟨standsFor_of_occurrence?, occurrence?_of_standsFor⟩

/-! ### Rows by what their fields read as -/

theorem ne_empty_of_readReal? {text : String} {x : Binary64} (h : readReal? text = some x) :
    text ≠ "" := by
  rintro rfl
  have none : readReal? "" = none := by decide
  rw [none] at h
  cases h

theorem ne_empty_of_readNanoseconds? {text : String} {ns : Int64}
    (h : readNanoseconds? text = some ns) : text ≠ "" := by
  obtain ⟨x, read, -⟩ := Option.map_eq_some_iff.mp h
  exact ne_empty_of_readReal? read

theorem occurrence?_eq_zone {z : Zone} (named : z.name ≠ "")
    (name : row.field Column.name = z.name)
    (time : readNanoseconds? (row.field Column.time) = some z.start)
    (duration : readNanoseconds? (row.field Column.duration) = some z.duration)
    (thread : readThread (row.field Column.thread) = z.thread) :
    row.occurrence? = some (.zone z) := by
  have stands := StandsFor.zone time (ne_empty_of_readNanoseconds? duration) duration (name ▸ named)
  rw [name, thread] at stands
  exact occurrence?_of_standsFor stands

theorem occurrence?_eq_plot {p : Plot} (named : p.name ≠ "")
    (name : row.field Column.name = p.name)
    (time : readNanoseconds? (row.field Column.time) = some p.time)
    (duration : row.field Column.duration = "")
    (value : readReal? (row.field Column.value) = some p.value)
    (thread : readThread (row.field Column.thread) = p.thread) :
    row.occurrence? = some (.plot p) := by
  have stands := StandsFor.plot time duration (ne_empty_of_readReal? value) value (name ▸ named)
  rw [name, thread] at stands
  exact occurrence?_of_standsFor stands

end TraceWeave.Row
