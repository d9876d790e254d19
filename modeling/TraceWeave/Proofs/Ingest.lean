import TraceWeave.Proofs.Blank
import TraceWeave.Proofs.Csv
import TraceWeave.Proofs.Field
import TraceWeave.Proofs.Row

/-! From a table to a trace without a loss.

A record that describes a zone or a plot gives it back, whatever texts are chosen for its numbers
and wherever its columns stand (`occurrence?_of_describes`). With the reading of tables, a whole
table gives back its zones and plots, each in order (`ingest_lossless`). -/

namespace TraceWeave

open Binary64

namespace Numeral

variable {text sign digits point fraction exponent : List Char} {negative : Bool} {q : ℚ} {x : Int}
  {c : Char}

theorem isBlank_of_isDigit (h : c.isDigit = true) : Text.isBlank c = false := by
  simp only [Char.isDigit, Bool.and_eq_true, decide_eq_true_eq, ge_iff_le,
    UInt32.le_iff_toNat_le] at h
  have range : 48 ≤ c.toNat ∧ c.toNat ≤ 57 := h
  simp [Text.isBlank, Text.blanks]
  omega

theorem isBlank_of_sign (h : Sign sign negative) : ∀ c ∈ sign, Text.isBlank c = false := by
  cases h with
  | none => nofun
  | plus | minus => exact List.forall_mem_singleton.mpr (by decide)

theorem isBlank_of_writesInt (h : WritesInt text x) : ∀ c ∈ text, Text.isBlank c = false := by
  cases h with
  | parts hsign hdigits =>
    intro c mem
    rcases List.mem_append.mp mem with first | later
    · exact isBlank_of_sign hsign c first
    · exact isBlank_of_isDigit (hdigits.2 c later)

theorem isBlank_of_writesExponent (h : WritesExponent exponent x) :
    ∀ c ∈ exponent, Text.isBlank c = false := by
  cases h with
  | absent => nofun
  | given mark written =>
    intro c mem
    rcases List.mem_cons.mp mem with rfl | later
    · rcases mark with rfl | rfl <;> decide
    · exact isBlank_of_writesInt written c later

theorem isBlank_of_writesFraction (h : WritesFraction point fraction) :
    ∀ c ∈ point, Text.isBlank c = false := by
  cases h with
  | absent => nofun
  | given digits =>
    intro c mem
    rcases List.mem_cons.mp mem with rfl | later
    · decide
    · exact isBlank_of_isDigit (digits c later)

/-- Nothing is trimmed from a numeral. -/
theorem isBlank_of_writes (h : Writes text negative q) : ∀ c ∈ text, Text.isBlank c = false := by
  cases h with
  | parts hsign hwhole hpoint _ hexponent =>
    intro c mem
    simp only [List.mem_append] at mem
    rcases mem with first | digit | point | last
    · exact isBlank_of_sign hsign c first
    · exact isBlank_of_isDigit (hwhole c digit)
    · exact isBlank_of_writesFraction hpoint c point
    · exact isBlank_of_writesExponent hexponent c last

end Numeral

/-! ### Whole numbers -/

theorem Magnitude.exact_mul_unitsPerOne {k : Nat} (le : k ≤ 2 ^ 53) : Exact (k * unitsPerOne) := by
  obtain ⟨u, -, -, one⟩ := exists_unitsPerOne_eq
  rw [one]
  refine exact_of_dvd (Nat.dvd_mul_left _ k) ?_
  calc k * 2 ^ (u + 1) ≤ 2 ^ 53 * 2 ^ (u + 1) := Nat.mul_le_mul_right _ le
    _ = 2 ^ (u + 1 + 53) := by ring

/-- Whole numbers of up to 53 digits are in the format. -/
theorem Magnitude.exists_units_eq {k : Nat} (le : k ≤ 2 ^ 53) :
    ∃ m : Magnitude, m.units = k * unitsPerOne := by
  have bound : k * unitsPerOne ≤ 2 ^ 128 * unitsPerOne :=
    Nat.mul_le_mul_right _ (le.trans (by decide))
  obtain ⟨m, -, units⟩ := exists_nearest? Nat.one_pos (lastPlace_le_of_le Nat.one_pos bound)
  have exact := nearest_mul_self (exact_mul_unitsPerOne le) Nat.one_pos
  rw [Nat.mul_one] at exact
  exact ⟨m, units.trans exact⟩

/-- A numeral with the value of a magnitude is read as that. -/
theorem Numeral.nearest_of_units {n : Numeral} {m : Magnitude} (h : n.units = m.units * n.parts) :
    n.nearest = .finite n.negative m := by
  have covers := m.covers_units n.parts_pos
  rw [← h] at covers
  exact nearest_of_owns (Magnitude.owns_iff.mpr covers)

/-- A time or duration that has few enough digits for the format, and a text for it. -/
structure WritesNanoseconds (text : String) (ns : Int64) : Prop where
  written : Numeral.WritesInt text.toList ns.toInt
  small : ns.toInt.natAbs ≤ 2 ^ 53

theorem WritesNanoseconds.read {text : String} {ns : Int64} (h : WritesNanoseconds text ns) :
    readNanoseconds? text = some ns := by
  obtain ⟨negative, writes, sign⟩ := Numeral.writes_of_writesInt h.written
  obtain ⟨n, read, rfl, size⟩ := Numeral.read?_of_writes writes
  obtain ⟨m, units⟩ := Magnitude.exists_units_eq h.small
  have whole : n.units = m.units * n.parts := by
    apply Nat.cast_injective (R := ℚ)
    rw [← n.size_mul_parts, size, units, Nat.cast_mul, Nat.cast_mul]
  have nearest := Numeral.nearest_of_units whole
  have truncated : (Binary64.finite n.negative m).truncate = ns := by
    apply Int64.toInt_inj.mp
    rw [IsUnits.toInt_truncate ⟨m, rfl, units⟩, Nat.mul_div_cancel _ unitsPerOne_pos, ← sign,
      min_eq_left ns.toInt_le, max_eq_right ns.minValue_le_toInt]
  simp [readNanoseconds?, readReal?, readFinite?, read, nearest, isFinite, truncated]

/-! ### Records -/

namespace Row

variable {header record : List String} {column text : String} {found : Occurrence}

def InColumn (header record : List String) (column text : String) : Prop :=
  ∃ i : Nat, header[i]?.map Text.trim = some column ∧ record[i]? = some text

/-- With one column of each name, no other one counts. -/
theorem standsBelow_of_inColumn (distinct : (header.map Text.trim).Nodup)
    (h : InColumn header record column text) : StandsBelow header record column text := by
  obtain ⟨i, named, found⟩ := h
  refine ⟨i, named, found, fun j later _ again => ?_⟩
  rw [← List.getElem?_map] at named again
  obtain ⟨inside, rfl⟩ := List.getElem?_eq_some_iff.mp named
  have same := (List.getElem?_inj inside distinct).mp (named.trans again.symm)
  omega

theorem field_of_inColumn (distinct : (header.map Text.trim).Nodup)
    (h : InColumn header record column text) (unpadded : Text.Unpadded text) :
    (ofPairs ((header.map Text.trim).zip record)).field column = text := by
  have found := (get?_ofPairs_zip_iff ..).mpr (standsBelow_of_inColumn distinct h)
  rw [field, found, Option.getD_some, Text.trim_of_unpadded unpadded]

/-- What the records of zones and plots have in common: a name without blanks around it, a time and
a thread, the latter two in decimal. -/
structure Locates (header record : List String) (name : String) (time thread : Int64) : Prop where
  named : name ≠ ""
  unpadded : Text.Unpadded name
  inName : InColumn header record Column.name name
  inTime : ∃ text, InColumn header record Column.time text ∧ WritesNanoseconds text time
  inThread : ∃ text, InColumn header record Column.thread text ∧
    Numeral.WritesInt text.toList thread.toInt

/-- A record describes a zone by its duration, whatever stands in the other columns, and a plot by
an empty duration and any decimal that rounds to its value. -/
inductive Describes (header record : List String) : Occurrence → Prop where
  | zone {z : Zone} {duration : String} : Locates header record z.name z.start z.thread →
      InColumn header record Column.duration duration → WritesNanoseconds duration z.duration →
      Describes header record (.zone z)
  | plot {p : Plot} {value : String} {negative : Bool} {q : ℚ} {m : Magnitude} :
      Locates header record p.name p.time p.thread → InColumn header record Column.duration "" →
      InColumn header record Column.value value → Numeral.Writes value.toList negative q →
      m.Closest q → p.value = .finite negative m → Describes header record (.plot p)

theorem Locates.fields {name : String} {time thread : Int64}
    (h : Locates header record name time thread) (distinct : (header.map Text.trim).Nodup) :
    let row := ofPairs ((header.map Text.trim).zip record)
    row.field Column.name = name ∧ readNanoseconds? (row.field Column.time) = some time ∧
      readThread (row.field Column.thread) = thread := by
  intro row
  obtain ⟨timeText, inTime, time⟩ := h.inTime
  obtain ⟨threadText, inThread, thread⟩ := h.inThread
  have timeField := field_of_inColumn distinct inTime
    (Text.unpadded_of_forall (Numeral.isBlank_of_writesInt time.written))
  have threadField := field_of_inColumn distinct inThread
    (Text.unpadded_of_forall (Numeral.isBlank_of_writesInt thread))
  refine ⟨field_of_inColumn distinct h.inName h.unpadded, ?_, ?_⟩
  · rw [timeField]
    exact time.read
  · rw [threadField]
    exact readThread_eq_iff.mpr (.given thread)

theorem occurrence?_of_describes (distinct : (header.map Text.trim).Nodup)
    (h : Describes header record found) :
    (ofPairs ((header.map Text.trim).zip record)).occurrence? = some found := by
  cases h with
  | zone located inDuration written =>
    obtain ⟨name, time, thread⟩ := located.fields distinct
    have duration := field_of_inColumn distinct inDuration
      (Text.unpadded_of_forall (Numeral.isBlank_of_writesInt written.written))
    refine occurrence?_eq_zone located.named name time ?_ thread
    rw [duration]
    exact written.read
  | plot located inDuration inValue writes closest rounded =>
    obtain ⟨name, time, thread⟩ := located.fields distinct
    have duration := field_of_inColumn distinct inDuration (Text.unpadded_of_forall nofun)
    have value := field_of_inColumn distinct inValue
      (Text.unpadded_of_forall (Numeral.isBlank_of_writes writes))
    refine occurrence?_eq_plot located.named name time duration ?_ thread
    rw [value, rounded]
    exact readFinite?_of_closest writes closest

end Row

theorem filterMap_eq_of_forall₂ {α β : Type} {f : α → Option β} {as : List α} {bs : List β}
    (h : List.Forall₂ (fun a b => f a = some b) as bs) : as.filterMap f = bs := by
  induction h with
  | nil => rfl
  | cons found _ ih => rw [List.filterMap_cons_some found, ih]

/-- Whatever way a table of zones and plots was written down, with its columns in any order and any
others among them, it is read as the trace of these zones and these plots, each in order. -/
theorem ingest_lossless {header : List String} {records : List (List String)}
    {occurrences : List Occurrence} {text : String}
    (distinct : (header.map Text.trim).Nodup)
    (described : List.Forall₂ (Row.Describes header) records occurrences)
    (written : Csv.WritesTable (header :: records) text) :
    Trace.ofRows (Row.ofCsv text) =
      ⟨occurrences.filterMap Occurrence.zone?, occurrences.filterMap Occurrence.plot?⟩ := by
  have rows : (Row.ofCsv text).filterMap Row.occurrence? = occurrences := by
    rw [Row.ofCsv, Csv.records_of_written written, Row.ofTable, List.filterMap_map]
    refine filterMap_eq_of_forall₂ (described.imp fun record found describes => ?_)
    exact Row.occurrence?_of_describes distinct describes
  simp only [Trace.ofRows, rows]

/-- A name with all that has a meaning in tables, the widest numbers and a negative zero, below a
header in no usual order. -/
theorem ingest_lossless_quoted :
    let header := ["value", "extra", " name ", "exec_time_ns", "thread", "ns_since_start"]
    let zone := ["", "x", "a,\"b\"\nc", "-9007199254740992", "-9223372036854775808", "+12"]
    let plot := ["-0.0e7", "", "fps", "", "7", "0"]
    let found : List Occurrence :=
      [.zone ⟨"a,\"b\"\nc", 12, -9007199254740992, Int64.minValue⟩,
        .plot ⟨"fps", 0, .finite true .zero, 7⟩]
    (header.map Text.trim).Nodup ∧ List.Forall₂ (Row.Describes header) [zone, plot] found ∧
      Trace.ofRows (Row.ofCsv (Csv.quotedTable [header, zone, plot])) =
        ⟨found.filterMap Occurrence.zone?, found.filterMap Occurrence.plot?⟩ := by
  intro header zone plot found
  have distinct : (header.map Text.trim).Nodup := by decide
  have closest : Magnitude.zero.Closest 0 := by
    have value : Magnitude.zero.value = 0 := by
      rw [Magnitude.value, show Magnitude.zero.units = 0 from rfl, Nat.cast_zero, zero_div]
    refine ⟨?_, fun other => ?_, fun _ _ _ => rfl⟩
    · exact sub_pos.mpr (pow_lt_pow_right₀ (by norm_num) (by norm_num))
    · rw [value, sub_self, abs_zero]
      exact abs_nonneg _
  have usual {n : Int} {text : String} (h : toString n = text) : Numeral.WritesInt text.toList n :=
    h ▸ Numeral.writesInt_toString n
  have twelve : Numeral.WritesInt "+12".toList 12 := by
    have digits : Json.Digits ['1', '2'] := ⟨by simp, by simp⟩
    exact .parts .plus digits
  have value : Numeral.Writes "-0.0e7".toList true 0 := by
    have seven : Numeral.WritesExponent ['e', '7'] 7 :=
      .given (.inl rfl) (.parts .none ⟨by simp, by simp⟩)
    have fraction : Numeral.WritesFraction ['.', '0'] ['0'] := .given (by simp)
    have whole : ∀ c ∈ ['0'], c.isDigit = true := by simp
    have writes := Numeral.Writes.parts .minus whole fraction (.inl (by simp)) seven
    have digits : Numeral.ofDigits ['0'] = 0 := rfl
    rw [digits] at writes
    simpa using writes
  have zoneLocated : Row.Locates header zone "a,\"b\"\nc" 12 Int64.minValue :=
    ⟨by decide, ⟨by rintro c ⟨⟩; decide, by rintro c ⟨⟩; decide⟩, ⟨2, by decide, rfl⟩,
      ⟨"+12", ⟨5, by decide, rfl⟩, twelve, by decide⟩,
      ⟨"-9223372036854775808", ⟨4, by decide, rfl⟩, usual (by decide)⟩⟩
  have plotLocated : Row.Locates header plot "fps" 0 7 :=
    ⟨by decide, ⟨by rintro c ⟨⟩; decide, by rintro c ⟨⟩; decide⟩, ⟨2, by decide, rfl⟩,
      ⟨"0", ⟨5, by decide, rfl⟩, usual (by decide), by decide⟩,
      ⟨"7", ⟨4, by decide, rfl⟩, usual (by decide)⟩⟩
  have long : WritesNanoseconds "-9007199254740992" (-9007199254740992) :=
    ⟨usual (by decide), by decide⟩
  have described : List.Forall₂ (Row.Describes header) [zone, plot] found := by
    refine .cons (.zone zoneLocated ?_ long)
      (.cons (.plot plotLocated ?_ ?_ value closest rfl) .nil)
    · exact ⟨3, by decide, rfl⟩
    · exact ⟨3, by decide, rfl⟩
    · exact ⟨0, by decide, rfl⟩
  have written : Csv.WritesTable [header, zone, plot] (Csv.quotedTable [header, zone, plot]) :=
    Csv.writesTable_quotedTable (by simp [header, zone, plot])
  exact ⟨distinct, described, ingest_lossless distinct described written⟩

end TraceWeave
