import TraceWeave.Interchange.Reader
import TraceWeave.Proofs.Decimal.Layout
import TraceWeave.Proofs.Json.Reader
import TraceWeave.Proofs.Normalization
import TraceWeave.Proofs.Row

/-! The interchange document of a list of events is a JSON text and stands for these events:
reading it gives each of them back, with the same bits in its numbers. The numbers of a merge are
all finite, whatever the rows of the two traces, so no value of its document is null
(`document_lossless`). -/

namespace TraceWeave

/-! ### Numbers as values -/

namespace Json

variable {x : Binary64}

theorem real_eq (finite : x.isFinite = true) : real x = .number (Layout.document.text x) :=
  if_pos finite

theorem real?_real (finite : x.isFinite = true) : real? (real x) = some x := by
  rw [real_eq finite]
  exact Layout.readFinite?_document finite

theorem numeric_real (finite : x.isFinite = true) : Numeric (real x) := by
  rw [real_eq finite]
  exact Layout.number_document finite

theorem int?_int (n : Int) : int? (int n) = some n := Numeral.readInteger?_toString n

@[simp]
theorem nat?_int (n : Nat) : nat? (int n) = some n := by
  simp only [nat?, int?_int]; rfl

@[simp]
theorem int64?_int (t : Int64) : int64? (int t.toInt) = some t := by
  have inRange : Clamped.ofInt? t.toInt = some (Int64.ofInt t.toInt) :=
    if_pos ⟨t.minValue_le_toInt, t.toInt_le⟩
  rw [int64?, int?_int, Option.bind_some, inRange, Int64.ofInt_toInt]

@[simp]
theorem numeric_int (n : Int) : Numeric (int n) := Numeral.number_toString n

theorem mapM_map_eq_some {α β : Type} {write : α → β} {read : β → Option α} {l : List α}
    (h : ∀ a ∈ l, read (write a) = some a) : (l.map write).mapM read = some l := by
  induction l with
  | nil => rfl
  | cons a l ih =>
    have first := h a List.mem_cons_self
    have others := ih fun b mem => h b (List.mem_cons_of_mem _ mem)
    rw [List.map_cons, List.mapM_cons, first, others]
    rfl

end Json

namespace Interchange

open Json

variable {event : Event} {events : List Event}

@[simp]
theorem process?_int (process : UInt32) : process? (int process.toNat) = some process := by
  have inRange : process.toNat < UInt32.size := process.toNat_lt
  simp [process?, nat?_int, inRange]

theorem numeric_ofEvent (finite : event.Finite) : Numeric (ofEvent event) := by
  cases event with
  | span name process thread start duration =>
    simp [ofEvent, heading, Numeric, NumericMembers, NumericMember, numeric_real finite.1,
      numeric_real finite.2]
  | sample name process thread time value =>
    simp [ofEvent, heading, Numeric, NumericMembers, NumericMember, numeric_real finite.1,
      numeric_real finite.2]
  | threadName process thread displayName =>
    simp [ofEvent, heading, Numeric, NumericMembers, NumericMember]

/-- An element gives its event back, and no other kind of event. -/
theorem event?_ofEvent (finite : event.Finite) : event? (ofEvent event) = some event := by
  cases event with
  | span name process thread start duration =>
    simp [event?, span?, ofEvent, heading, fields?, string?, real?_real finite.1,
      real?_real finite.2]
  | sample name process thread time value =>
    simp [event?, span?, sample?, ofEvent, heading, fields?, string?, real?_real finite.1,
      real?_real finite.2]
  | threadName process thread displayName =>
    simp [event?, span?, sample?, threadName?, ofEvent, heading, fields?, string?]

theorem numericItems_map (finite : ∀ event ∈ events, event.Finite) :
    NumericItems (events.map ofEvent) :=
  numericItems_iff.mpr (List.forall_mem_map.mpr fun event mem =>
    numeric_ofEvent (finite event mem))

theorem numeric_ofEvents (finite : ∀ event ∈ events, event.Finite) : Numeric (ofEvents events) :=
  ⟨numericItems_map finite, trivial⟩

theorem mapM_event? (finite : ∀ event ∈ events, event.Finite) :
    (events.map ofEvent).mapM event? = some events :=
  mapM_map_eq_some fun event mem => event?_ofEvent (finite event mem)

theorem events?_ofEvents (finite : ∀ event ∈ events, event.Finite) :
    events? (ofEvents events) = some events := by
  simp [events?, ofEvents, fields?, items?, mapM_event? finite]

end Interchange

/-! ### The numbers of a merge -/

namespace Json

inductive Occurs (part : Json) : Json → Prop where
  | self : Occurs part part
  | item {item : Json} {items : List Json} : item ∈ items → Occurs part item →
      Occurs part (.array items)
  | member {member : String × Json} {members : List (String × Json)} : member ∈ members →
      Occurs part member.2 → Occurs part (.object members)

@[simp]
theorem occurs_null_array {items : List Json} :
    Occurs .null (.array items) ↔ ∃ item ∈ items, Occurs .null item := by
  refine ⟨fun h => ?_, fun ⟨item, mem, h⟩ => .item mem h⟩
  cases h with
  | item mem h => exact ⟨_, mem, h⟩

@[simp]
theorem occurs_null_object {members : List (String × Json)} :
    Occurs .null (.object members) ↔ ∃ member ∈ members, Occurs .null member.2 := by
  refine ⟨fun h => ?_, fun ⟨member, mem, h⟩ => .member mem h⟩
  cases h with
  | member mem h => exact ⟨_, mem, h⟩

@[simp]
theorem not_occurs_null_string (s : String) : ¬ Occurs .null (.string s) := nofun

@[simp]
theorem not_occurs_null_int (n : Int) : ¬ Occurs .null (int n) := nofun

theorem not_occurs_null_real {x : Binary64} (finite : x.isFinite = true) :
    ¬ Occurs .null (real x) := by
  rw [real_eq finite]; nofun

end Json

theorem Interchange.not_occurs_null_ofEvent {event : Event} (finite : event.Finite) :
    ¬ Json.Occurs .null (ofEvent event) := by
  cases event with
  | span name process thread start duration =>
    simp [ofEvent, heading, Json.not_occurs_null_real finite.1, Json.not_occurs_null_real finite.2]
  | sample name process thread time value =>
    simp [ofEvent, heading, Json.not_occurs_null_real finite.1, Json.not_occurs_null_real finite.2]
  | threadName process thread displayName =>
    simp [ofEvent, heading]

theorem Interchange.not_occurs_null {events : List Event}
    (finite : ∀ event ∈ events, event.Finite) : ¬ Json.Occurs .null (ofEvents events) := by
  simp only [ofEvents, Json.occurs_null_object, List.mem_singleton, exists_eq_left,
    Json.occurs_null_array, List.mem_map]
  rintro ⟨_, ⟨event, mem, rfl⟩, null⟩
  exact not_occurs_null_ofEvent (finite event mem) null

theorem Binary64.isFinite_of_readFinite? {text : List Char} {x : Binary64}
    (h : readFinite? text = some x) : x.isFinite = true := by
  simp only [readFinite?, Option.bind_eq_bind, Option.bind_eq_some_iff] at h
  obtain ⟨n, -, h⟩ := h
  split at h
  case isTrue finite => cases h; exact finite
  case isFalse => cases h

theorem Row.isFinite_of_occurrence? {row : Row} {plot : Plot}
    (h : row.occurrence? = some (.plot plot)) : plot.value.isFinite = true := by
  cases standsFor_of_occurrence? h with
  | plot _ _ _ read _ => exact Binary64.isFinite_of_readFinite? read

theorem Trace.isFinite_of_mem_ofRows {rows : List Row} {plot : Plot}
    (h : plot ∈ (ofRows rows).plots) : plot.value.isFinite = true := by
  obtain ⟨occurrence, mem, found⟩ := List.mem_filterMap.mp h
  obtain ⟨row, -, stands⟩ := List.mem_filterMap.mp mem
  cases occurrence with
  | zone => cases found
  | plot => cases found; exact Row.isFinite_of_occurrence? stands

/-- The numbers of a merge are finite, whatever the rows of the two traces. -/
theorem Weave.finite_of_mem {rows rows' : List Row} {shift : Int64} {event : Event}
    (h : event ∈ (Weave.ofTraces (.ofRows rows) (.ofRows rows') shift).merged.events) :
    event.Finite := by
  have times := Timeline.filterMap_time?_append (.ofRows rows) (.ofRows rows') shift viewerRole
    layerRole
  obtain ⟨before, mem, rfl⟩ := MergedTimeline.mem_events.mp h
  refine MergedTimeline.finite_place times mem ?_
  rcases List.mem_append.mp mem with mem | mem
  · exact Timeline.finite_of_mem (fun plot => Trace.isFinite_of_mem_ofRows) mem
  · exact Timeline.finite_of_mem (fun plot => Trace.isFinite_of_mem_ofRows) mem

theorem Interchange.read?_document (style : Json.Style) {events : List Event}
    (finite : ∀ event ∈ events, event.Finite) :
    read? ((ofEvents events).document style) = some events := by
  have spells := Json.spellsDocument_document style (numeric_ofEvents finite)
  rw [read?, Json.read?_of_spells spells, Option.bind_some, events?_ofEvents finite]

/-- The document of a list of finite events, in either style, is a JSON text of one value, and
this value is an object whose only member lists one element for each event, which gives the event
back. The merge of two traces has finite events alone, whatever their rows, and then no value in
the document is null. -/
theorem Interchange.document_lossless :
    (∀ (style : Json.Style) (events : List Event), (∀ event ∈ events, event.Finite) →
      Json.SpellsDocument (ofEvents events) ((ofEvents events).document style) ∧
      Json.read? ((ofEvents events).document style)
        = some (.object [("traceEvents", .array (events.map ofEvent))]) ∧
      (∀ event ∈ events, event? (ofEvent event) = some event) ∧
      read? ((ofEvents events).document style) = some events) ∧
    ∀ (rows rows' : List Row) (shift : Int64),
      let events := (Weave.ofTraces (.ofRows rows) (.ofRows rows') shift).merged.events
      (∀ event ∈ events, event.Finite) ∧ ¬ Json.Occurs .null (ofEvents events) := by
  refine ⟨fun style events finite => ?_, fun rows rows' shift => ?_⟩
  · have spells := Json.spellsDocument_document style (numeric_ofEvents finite)
    exact ⟨spells, Json.read?_of_spells spells,
      fun event mem => event?_ofEvent (finite event mem), read?_document style finite⟩
  · exact ⟨fun event mem => Weave.finite_of_mem mem,
      not_occurs_null fun event mem => Weave.finite_of_mem mem⟩

/-- A span may have the name of the other kind of event, and a zero keeps its sign. -/
theorem Interchange.document_lossless_escaped :
    let events : List Event := [
      .span "thread_name" 4294967295 (-7) (.finite true .zero) (microseconds 1500),
      .sample "a \"b\" \\ \n\x01é" 2 Int64.minValue .zero (microseconds (-3)),
      .threadName 1 0 "\x1f"]
    read? ((ofEvents events).document .indented) = some events := by
  intro events
  have finite : ∀ event ∈ events, event.Finite := by
    simp only [events, List.forall_mem_cons, List.not_mem_nil, false_implies, implies_true]
    exact ⟨⟨rfl, (isUnits_microseconds _).isFinite⟩, ⟨rfl, (isUnits_microseconds _).isFinite⟩,
      trivial, trivial⟩
  exact (document_lossless.1 .indented events finite).2.2.2

end TraceWeave
