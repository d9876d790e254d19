import TraceWeave.Proofs.Csv

/-! Records are read independently of each other, well formed or not.

Where a record starts the reader has nothing open (`Settled`), and of the records that it has read it
knows nothing: it only puts new ones behind them (`foldl_step_behind`). So a text that ends where a
record starts can be cut off and both parts be read by themselves (`finish_foldl_append`). Such a text
ends with a line end outside quotes (`place_step_iff`). The main statement is about the rows,
`ofCsv_append`. -/

namespace TraceWeave.Csv

namespace Reader

variable {r : Reader} {text : List Char} {c : Char}

/-- A line end outside quotes leads to the start of a record, and nothing else does. -/
theorem place_step_iff :
    (r.step c).place = .recordStart ↔ isLineEnd c = true ∧ r.place ≠ .quoted := by
  by_cases quote : c = '"'
  · subst quote
    cases place : r.place <;> simp [step, place, first, plain, push, isLineEnd]
  · by_cases comma : c = ','
    · subst comma
      cases place : r.place <;> simp [step, place, first, plain, push, endField, isLineEnd]
    · cases place : r.place <;> cases lineEnd : isLineEnd c <;>
        simp [step, place, first, plain, push, endRecord, quote, comma, lineEnd]

/-- No field and no record is begun where a record starts. -/
def Settled (r : Reader) : Prop := r.place = .recordStart → r.field = [] ∧ r.record = []

theorem settled_empty : empty.Settled := fun _ => ⟨rfl, rfl⟩

theorem Settled.step (h : r.Settled) (c : Char) : (r.step c).Settled := by
  intro start
  obtain ⟨lineEnd, outside⟩ := place_step_iff.mp start
  cases place : r.place with
  | recordStart =>
    have same : r.step c = r := by simp [Reader.step, place, lineEnd]
    rw [same]
    exact h place
  | quoted => exact absurd place outside
  | fieldStart | bare | quoteSeen =>
    have inside : r.Inside := by simp [Inside, place]
    rw [inside.step_eq lineEnd]
    exact ⟨rfl, rfl⟩

theorem Settled.foldl (h : r.Settled) (text : List Char) : (text.foldl Reader.step r).Settled := by
  induction text generalizing r with
  | nil => exact h
  | cons c text ih => exact ih (h.step c)

/-- All that is left of a text that ends where a record starts are its records. -/
theorem Settled.eq_between (h : r.Settled) (start : r.place = .recordStart) :
    r = between r.records := by
  obtain ⟨field, record⟩ := h start
  cases r
  cases start
  cases field
  cases record
  rfl

/-! ### Records read before -/

/-- The reader with other records read before those that it has. -/
def behind (r : Reader) (done : List (List String)) : Reader :=
  { r with records := r.records ++ done }

theorem endRecord_behind (r : Reader) (done : List (List String)) :
    (r.behind done).endRecord = r.endRecord.behind done := rfl

theorem plain_behind (r : Reader) (done : List (List String)) (c : Char) :
    (r.behind done).plain c = (r.plain c).behind done := by
  unfold plain
  split
  · rfl
  · split <;> rfl

theorem first_behind (r : Reader) (done : List (List String)) (c : Char) :
    (r.behind done).first c = (r.first c).behind done := by
  unfold first
  split
  · rfl
  · exact plain_behind r done c

theorem step_behind (r : Reader) (done : List (List String)) (c : Char) :
    (r.behind done).step c = (r.step c).behind done := by
  have same : (r.behind done).place = r.place := rfl
  unfold step
  rw [same]
  cases r.place with
  | recordStart =>
    dsimp only
    split
    · rfl
    · exact first_behind r done c
  | fieldStart => exact first_behind r done c
  | bare => exact plain_behind r done c
  | quoted => dsimp only; split <;> rfl
  | quoteSeen =>
    dsimp only
    split
    · rfl
    · exact plain_behind r done c

theorem foldl_step_behind (r : Reader) (done : List (List String)) (text : List Char) :
    text.foldl step (r.behind done) = (text.foldl step r).behind done := by
  induction text generalizing r with
  | nil => rfl
  | cons c text ih => rw [List.foldl_cons, step_behind, ih, List.foldl_cons]

theorem finish_behind (r : Reader) (done : List (List String)) :
    (r.behind done).finish = done.reverse ++ r.finish := by
  have same : (r.behind done).place = r.place := rfl
  unfold finish
  rw [same, endRecord_behind]
  split <;> simp [behind]

/-- A text that ends where a record starts can be cut off. -/
theorem finish_foldl_append (start : (text.foldl step empty).place = .recordStart)
    (rest : List Char) : ((text ++ rest).foldl step empty).finish =
      (text.foldl step empty).finish ++ (rest.foldl step empty).finish := by
  have settled : text.foldl step empty = empty.behind (text.foldl step empty).records :=
    (settled_empty.foldl text).eq_between start
  have finished : (text.foldl step empty).finish = (text.foldl step empty).records.reverse := by
    rw [finish, if_pos start]
  rw [List.foldl_append, finished, ← finish_behind, ← foldl_step_behind, ← settled]

end Reader

open Reader

/-! ### Texts -/

def readerAfter (text : String) : Reader := (dropMark text.toList).foldl step Reader.empty

/-- A record would start after the text. -/
def Closed (text : String) : Prop := (readerAfter text).place = .recordStart

def Quoted (text : String) : Prop := (readerAfter text).place = .quoted

instance (text : String) : Decidable (Quoted text) := inferInstanceAs (Decidable (_ = _))

/-- The text ends with a line end that is not between quotes, given the text in front of it. -/
def EndsLine (before text : String) : Prop :=
  ∃ line c, text = line.push c ∧ isLineEnd c = true ∧ ¬ Quoted (before ++ line)

/-- A text of one record, the names of the columns, up to the end of its line. -/
structure HeaderLine (text : String) : Prop where
  single : ∃ names, records text = [names]
  ended : EndsLine "" text

variable {header body text : String}

/-- A mark can only stand in front of all. -/
theorem dropMark_append {text : List Char} (some : text ≠ []) (more : List Char) :
    dropMark (text ++ more) = dropMark text ++ more := by
  obtain ⟨c, rest, rfl⟩ := List.exists_cons_of_ne_nil some
  by_cases mark : c = byteOrderMark
  · subst mark
    rfl
  · rw [dropMark_eq_self (by simpa using mark), dropMark_eq_self (by simpa using mark)]

theorem readerAfter_append (some : text ≠ "") (more : String) :
    readerAfter (text ++ more) = more.toList.foldl step (readerAfter text) := by
  have chars : text.toList ≠ [] := by simpa using some
  rw [readerAfter, String.toList_append, dropMark_append chars, List.foldl_append, readerAfter]

theorem readerAfter_push (some : text ≠ "") (c : Char) :
    readerAfter (text.push c) = (readerAfter text).step c := by
  rw [← String.append_singleton, readerAfter_append some, String.toList_singleton]
  rfl

theorem exists_push (some : text ≠ "") : ∃ line c, text = String.push line c := by
  have chars : text.toList ≠ [] := by simpa using some
  refine ⟨String.ofList text.toList.dropLast, text.toList.getLast chars, ?_⟩
  rw [← String.toList_inj, String.toList_push, String.toList_ofList, List.dropLast_concat_getLast]

theorem closed_push_iff (some : text ≠ "") {c : Char} :
    Closed (text.push c) ↔ isLineEnd c = true ∧ ¬ Quoted text := by
  rw [Closed, readerAfter_push some, place_step_iff, Quoted]

theorem closed_append_iff (some : header ≠ "") (closed : Closed header) :
    Closed (header ++ body) ↔ body = "" ∨ EndsLine header body := by
  have push (line : String) (c : Char) :
      Closed (header ++ line.push c) ↔ isLineEnd c = true ∧ ¬ Quoted (header ++ line) := by
    rw [← String.append_singleton, ← String.append_assoc, String.append_singleton]
    exact closed_push_iff (by simp [some])
  constructor
  · intro ended
    by_cases none : body = ""
    · exact .inl none
    · obtain ⟨line, c, rfl⟩ := exists_push none
      exact .inr ⟨line, c, rfl, (push line c).mp ended⟩
  · rintro (rfl | ⟨line, c, rfl, ended⟩)
    · rwa [String.append_empty]
    · exact (push line c).mpr ended

theorem HeaderLine.ne_empty (h : HeaderLine header) : header ≠ "" := by
  rintro rfl
  obtain ⟨line, c, same, -⟩ := h.ended
  exact absurd same.symm (by simp)

theorem HeaderLine.closed (h : HeaderLine header) : Closed header := by
  obtain ⟨line, c, rfl, lineEnd, outside⟩ := h.ended
  rw [String.empty_append] at outside
  by_cases none : line = ""
  · subst none
    have chars : c = '\r' ∨ c = '\n' := by simpa [isLineEnd] using lineEnd
    rcases chars with rfl | rfl <;> rfl
  · exact (closed_push_iff none).mpr ⟨lineEnd, outside⟩

def furtherRecords (text : String) : List (List String) :=
  (text.toList.foldl step Reader.empty).finish

theorem records_append (some : text ≠ "") (closed : Closed text) (more : String) :
    records (text ++ more) = records text ++ furtherRecords more := by
  have chars : text.toList ≠ [] := by simpa using some
  rw [records, String.toList_append, dropMark_append chars, finish_foldl_append closed, records,
    furtherRecords]

end TraceWeave.Csv

namespace TraceWeave.Row

open Csv

theorem ofTable_append (header : List String) (records more : List (List String)) :
    ofTable (header :: (records ++ more)) = ofTable (header :: records) ++ ofTable (header :: more) := by
  simp only [ofTable, List.map_append]

/-- What follows the lines of a table does not change their rows, and is not changed by them. The
lines may be malformed, and all that counts is that they end with a line end outside quotes; what
follows may be any text. -/
theorem ofCsv_append {header : String} (line : HeaderLine header) (body rest : String) :
    (Closed (header ++ body) ↔ body = "" ∨ EndsLine header body) ∧
      (Closed (header ++ body) →
        ofCsv (header ++ body ++ rest) = ofCsv (header ++ body) ++ ofCsv (header ++ rest)) := by
  obtain ⟨names, single⟩ := line.single
  have first (more : String) : records (header ++ more) = names :: furtherRecords more := by
    rw [records_append line.ne_empty line.closed, single, List.singleton_append]
  refine ⟨closed_append_iff line.ne_empty line.closed, fun closed => ?_⟩
  have some : header ++ body ≠ "" := by simp [line.ne_empty]
  calc ofCsv (header ++ body ++ rest)
      = ofTable (names :: (furtherRecords body ++ furtherRecords rest)) := by
        rw [ofCsv, records_append some closed, first, List.cons_append]
    _ = ofCsv (header ++ body) ++ ofCsv (header ++ rest) := by
        rw [ofTable_append, ofCsv, ofCsv, first, first]

/-- A mark and a carriage return whose line feed is read with the lines after it, a quote that goes
on behind the closing one, and a quote that is never closed. -/
theorem ofCsv_append_malformed :
    let header := "\uFEFFname,value\r"
    let body := "\n\"a\"b\",\"1\n2\"\r\n\n"
    let rest := "\n\uFEFF,\"open,\n"
    HeaderLine header ∧ EndsLine header body ∧
      ofCsv (header ++ body ++ rest) = ofCsv (header ++ body) ++ ofCsv (header ++ rest) := by
  intro header body rest
  have line : HeaderLine header :=
    ⟨⟨["name", "value"], by decide +kernel⟩, "\uFEFFname,value", '\r', by decide +kernel⟩
  have ended : EndsLine header body :=
    ⟨"\n\"a\"b\",\"1\n2\"\r\n", '\n', by decide +kernel⟩
  obtain ⟨closed, split⟩ := ofCsv_append line body rest
  exact ⟨line, ended, split (closed.mpr (.inr ended))⟩

end TraceWeave.Row
