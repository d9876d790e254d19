import Mathlib.Data.List.Forall2
import Mathlib.Data.List.Induction
import TraceWeave.Row

/-! Reading a table undoes writing it, whatever way of writing was taken: bare or quoted fields,
any line ends, empty lines between records, a byte order mark in front, no end after the last
record. The reader's state is followed field by field (`foldl_field`), record by record
(`endRecord_foldl_fields`) and through the whole text (`finish_foldl_records`); the main statement
is about the rows, `ofCsv_of_written`. -/

namespace TraceWeave.Csv

inductive LineEnd where
  | feed
  | carriage
  | both

def LineEnd.text : LineEnd → List Char
  | .feed => ['\n']
  | .carriage => ['\r']
  | .both => ['\r', '\n']

def emptyLines (ends : List LineEnd) : List Char := ends.flatMap LineEnd.text

def doubleQuotes (text : List Char) : List Char :=
  text.flatMap fun c => if c = '"' then ['"', '"'] else [c]

/-- The ways to write a field: between quotes, or as it is when nothing in it has a meaning. -/
inductive WritesField (field : String) : List Char → Prop where
  | quoted : WritesField field ('"' :: (doubleQuotes field.toList ++ ['"']))
  | bare : (∀ c ∈ field.toList, c ≠ ',' ∧ c ≠ '\r' ∧ c ≠ '\n') →
      field.toList.head? ≠ some '"' → WritesField field field.toList

/-- The condition on a bare field as it can be computed. -/
theorem WritesField.ordinary {field : String}
    (h : (field.toList.all fun c => decide (c ≠ ',' ∧ c ≠ '\r' ∧ c ≠ '\n')) = true)
    (h' : field.toList.head? ≠ some '"') : WritesField field field.toList :=
  .bare (fun c mem => of_decide_eq_true (List.all_eq_true.mp h c mem)) h'

inductive WritesFields : List String → List Char → Prop where
  | last {field : String} {text : List Char} : WritesField field text → WritesFields [field] text
  | more {field : String} {fields : List String} {text rest : List Char} :
      WritesField field text → WritesFields fields rest →
      WritesFields (field :: fields) (text ++ ',' :: rest)

/-- A record is not written as an empty line, so one empty field by itself needs quotes. -/
structure WritesRecord (record : List String) (text : List Char) : Prop where
  fields : WritesFields record text
  nonempty : text ≠ []

inductive WritesRecords : List (List String) → List Char → Prop where
  | none (empty : List LineEnd) : WritesRecords [] (emptyLines empty)
  | unended {record : List String} {text : List Char} (empty : List LineEnd) :
      WritesRecord record text → WritesRecords [record] (emptyLines empty ++ text)
  | more {record : List String} {records : List (List String)} {text rest : List Char}
      (empty : List LineEnd) (ending : LineEnd) :
      WritesRecord record text → WritesRecords records rest →
      WritesRecords (record :: records) (emptyLines empty ++ (text ++ (ending.text ++ rest)))

def byteOrderMark : Char := '\uFEFF'

/-- The texts of a table. Without a mark in front the text must not look as if there were one. -/
inductive WritesTable (table : List (List String)) : String → Prop where
  | marked {text : List Char} : WritesRecords table text →
      WritesTable table (String.ofList (byteOrderMark :: text))
  | unmarked {text : List Char} : WritesRecords table text → text.head? ≠ some byteOrderMark →
      WritesTable table (String.ofList text)

namespace Reader

variable {r : Reader} {field : String} {fields record : List String} {text : List Char} {c : Char}

theorem plain_of_ordinary (h : c ≠ ',' ∧ c ≠ '\r' ∧ c ≠ '\n') : r.plain c = r.push .bare c := by
  obtain ⟨comma, carriage, feed⟩ := h
  simp [plain, isLineEnd, comma, carriage, feed]

theorem step_bare (place : r.place = .bare) (h : c ≠ ',' ∧ c ≠ '\r' ∧ c ≠ '\n') :
    r.step c = r.push .bare c := by
  simp only [step, place, plain_of_ordinary h]

theorem foldl_bare (text : List Char) (place : r.place = .bare)
    (ordinary : ∀ c ∈ text, c ≠ ',' ∧ c ≠ '\r' ∧ c ≠ '\n') :
    text.foldl step r = { r with field := text.reverse ++ r.field } := by
  induction text generalizing r with
  | nil => rfl
  | cons c text ih =>
    rw [List.foldl_cons, step_bare place (ordinary c List.mem_cons_self),
      ih (r := r.push .bare c) rfl fun d hd => ordinary d (List.mem_cons_of_mem _ hd)]
    simp [push, place]

theorem foldl_doubleQuotes (text : List Char) (place : r.place = .quoted) :
    (doubleQuotes text).foldl step r = { r with field := text.reverse ++ r.field } := by
  induction text generalizing r with
  | nil => rfl
  | cons c text ih =>
    have once : (if c = '"' then ['"', '"'] else [c]).foldl step r = r.push .quoted c := by
      by_cases quote : c = '"'
      · simp [quote, step, place, push]
      · simp [quote, step, place]
    rw [doubleQuotes, List.flatMap_cons, List.foldl_append, once, ← doubleQuotes,
      ih (r := r.push .quoted c) rfl]
    simp [push, place]

def AtField (r : Reader) : Prop := (r.place = .recordStart ∨ r.place = .fieldStart) ∧ r.field = []

def Inside (r : Reader) : Prop := r.place = .fieldStart ∨ r.place = .bare ∨ r.place = .quoteSeen

theorem first_of_atField (h : r.AtField) (c : Char) (ordinary : isLineEnd c = false) :
    r.step c = r.first c := by
  rcases h.1 with place | place <;> simp [step, place, ordinary]

/-- After a field all of it is there, and the reader has left the start of the field unless nothing
was written. -/
theorem foldl_field (h : WritesField field text) (start : r.AtField) :
    ∃ place, text.foldl step r = { r with place, field := field.toList.reverse } ∧
      (place = .bare ∨ place = .quoteSeen ∨ text = [] ∧ place = r.place) := by
  cases h with
  | quoted =>
    refine ⟨.quoteSeen, ?_, .inr (.inl rfl)⟩
    rw [List.foldl_cons, first_of_atField start '"' (by decide), List.foldl_append,
      foldl_doubleQuotes _ (by simp [first])]
    simp [first, step, start.2]
  | bare ordinary noQuote =>
    cases chars : field.toList with
    | nil =>
      refine ⟨r.place, ?_, .inr (.inr ⟨rfl, rfl⟩)⟩
      cases r
      cases start.2
      rfl
    | cons c text =>
      rw [chars] at ordinary noQuote
      refine ⟨.bare, ?_, .inl rfl⟩
      have plainFirst := ordinary c List.mem_cons_self
      have noLineEnd : isLineEnd c = false := by simp [isLineEnd, plainFirst]
      have open' : r.step c = r.push .bare c := by
        rw [first_of_atField start c noLineEnd, first, if_neg (by simpa using noQuote),
          plain_of_ordinary plainFirst]
      rw [List.foldl_cons, open',
        foldl_bare text (r := r.push .bare c) rfl fun d hd => ordinary d (List.mem_cons_of_mem _ hd)]
      simp [push, start.2]

theorem step_comma (place : r.place ≠ .quoted) : r.step ',' = r.endField := by
  cases h : r.place <;> simp_all [step, first, plain, isLineEnd]

theorem endRecord_foldl_fields (h : WritesFields record text) (start : r.AtField) :
    (text.foldl step r).endRecord =
        ⟨.recordStart, [], [], (r.record.reverse ++ record) :: r.records⟩ ∧
      (r.place = .fieldStart ∨ text ≠ [] → (text.foldl step r).Inside) := by
  induction h generalizing r with
  | last written =>
    obtain ⟨place, read, left⟩ := foldl_field written start
    rw [read]
    refine ⟨by simp [endRecord, endField], fun begun => ?_⟩
    rcases left with rfl | rfl | ⟨none, rfl⟩
    · exact .inr (.inl rfl)
    · exact .inr (.inr rfl)
    · exact .inl (begun.resolve_right (not_not_intro none))
  | more written _ ih =>
    obtain ⟨place, read, left⟩ := foldl_field written start
    rw [List.foldl_append, read, List.foldl_cons, step_comma]
    · obtain ⟨ended, inside⟩ := ih (r := endField _) ⟨.inr rfl, rfl⟩
      exact ⟨ended.trans (by simp [endField]), fun _ => inside (.inl rfl)⟩
    · rcases left with rfl | rfl | ⟨_, rfl⟩
      · simp
      · simp
      · rcases start.1 with place | place <;> simp [place]

def between (done : List (List String)) : Reader := ⟨.recordStart, [], [], done⟩

theorem foldl_emptyLines (ends : List LineEnd) (done : List (List String)) :
    (emptyLines ends).foldl step (between done) = between done := by
  induction ends with
  | nil => rfl
  | cons ending ends ih =>
    rw [emptyLines, List.flatMap_cons, List.foldl_append, ← emptyLines]
    cases ending <;> exact ih

theorem Inside.step_eq (h : r.Inside) (lineEnd : isLineEnd c = true) : r.step c = r.endRecord := by
  have char : c ≠ ',' ∧ c ≠ '"' := by
    constructor <;> rintro rfl <;> cases lineEnd
  rcases h with place | place | place <;> simp [step, place, first, plain, lineEnd, char]

theorem Inside.foldl_lineEnd (h : r.Inside) (ending : LineEnd) :
    ending.text.foldl step r = r.endRecord := by
  cases ending with
  | feed => exact h.step_eq rfl
  | carriage => exact h.step_eq rfl
  | both =>
    rw [LineEnd.text, List.foldl_cons, h.step_eq rfl]
    rfl

theorem Inside.finish_eq (h : r.Inside) : r.finish = r.endRecord.records.reverse := by
  have begun : r.place ≠ .recordStart := by rcases h with place | place | place <;> simp [place]
  rw [finish, if_neg begun]

theorem finish_foldl_records {table : List (List String)} (h : WritesRecords table text)
    (done : List (List String)) :
    (text.foldl step (between done)).finish = done.reverse ++ table := by
  have start : (between done).AtField := ⟨.inl rfl, rfl⟩
  induction h generalizing done with
  | none =>
    rw [foldl_emptyLines]
    simp [finish, between]
  | unended _ written =>
    obtain ⟨ended, inside⟩ := endRecord_foldl_fields written.fields start
    rw [List.foldl_append, foldl_emptyLines, (inside (.inr written.nonempty)).finish_eq, ended]
    simp [between]
  | more _ ending written _ ih =>
    obtain ⟨ended, inside⟩ := endRecord_foldl_fields written.fields start
    rw [List.foldl_append, foldl_emptyLines, List.foldl_append, List.foldl_append,
      (inside (.inr written.nonempty)).foldl_lineEnd, ended]
    refine (ih _ ⟨.inl rfl, rfl⟩).trans ?_
    simp [between]

end Reader

open Reader

theorem dropMark_eq_self {text : List Char} (noMark : text.head? ≠ some byteOrderMark) :
    dropMark text = text := by
  unfold dropMark
  split
  case h_1 => exact absurd rfl noMark
  case h_2 => rfl

theorem records_of_written {table : List (List String)} {text : String}
    (h : WritesTable table text) : records text = table := by
  have read {chars : List Char} (written : WritesRecords table chars) :
      (chars.foldl step Reader.empty).finish = table := finish_foldl_records written []
  cases h with
  | marked written => simpa [records, dropMark, byteOrderMark] using read written
  | unmarked written noMark =>
    rw [records, String.toList_ofList, dropMark_eq_self noMark, read written]

/-! ### Tables with quotes around all fields -/

def quotedFields (record : List String) : List Char :=
  [','].intercalate (record.map fun field => '"' :: (doubleQuotes field.toList ++ ['"']))

def quotedTable (table : List (List String)) : String :=
  String.ofList (table.flatMap fun record => quotedFields record ++ LineEnd.feed.text)

theorem writesFields_quotedFields {record : List String} (some : record ≠ []) :
    WritesFields record (quotedFields record) := by
  induction record with
  | nil => exact absurd rfl some
  | cons field record ih =>
    cases record with
    | nil =>
      refine (congrArg (WritesFields _) ?_).mp (.last .quoted)
      simp [quotedFields]
    | cons next record =>
      refine (congrArg (WritesFields _) ?_).mp (.more .quoted (ih nofun))
      simp [quotedFields]

theorem exists_quotedFields {record : List String} (some : record ≠ []) :
    ∃ rest, quotedFields record = '"' :: rest := by
  obtain ⟨field, record, rfl⟩ := List.exists_cons_of_ne_nil some
  cases record with
  | nil => exact ⟨doubleQuotes field.toList ++ ['"'], by simp [quotedFields]⟩
  | cons next record =>
    refine ⟨doubleQuotes field.toList ++ '"' :: ',' :: quotedFields (next :: record), ?_⟩
    simp [quotedFields]

theorem writesTable_quotedTable {table : List (List String)}
    (some : ∀ record ∈ table, record ≠ []) : WritesTable table (quotedTable table) := by
  refine .unmarked ?records ?noMark
  case records =>
    induction table with
    | nil => exact .none []
    | cons record table ih =>
      have fields := some record List.mem_cons_self
      have written : WritesRecord record (quotedFields record) := by
        refine ⟨writesFields_quotedFields fields, ?_⟩
        obtain ⟨rest, quoted⟩ := exists_quotedFields fields
        rw [quoted]
        nofun
      rw [List.flatMap_cons, List.append_assoc]
      exact .more [] .feed written (ih fun other mem => some other (List.mem_cons_of_mem _ mem))
  case noMark =>
    cases table with
    | nil => nofun
    | cons record table =>
      obtain ⟨rest, quoted⟩ := exists_quotedFields (some record List.mem_cons_self)
      rw [List.flatMap_cons, quoted]
      simp [byteOrderMark]

end TraceWeave.Csv

namespace TraceWeave.Row

open Csv

theorem getElem?_concat_eq_some {α : Type} {l : List α} {a b : α} {i : Nat} :
    (l ++ [a])[i]? = some b ↔ l[i]? = some b ∨ i = l.length ∧ a = b := by
  rw [List.getElem?_append]
  split
  case isTrue inside => simp [Nat.ne_of_lt inside]
  case isFalse outside => rw [List.getElem?_singleton]; grind

theorem get?_ofPairs_iff (pairs : List (String × String)) (column value : String) :
    (ofPairs pairs).get? column = some value ↔
      ∃ i : Nat, pairs[i]? = some (column, value) ∧
        ∀ (j : Nat) (other : String), i < j → pairs[j]? ≠ some (column, other) := by
  induction pairs using List.reverseRecOn with
  | nil => simp [ofPairs, empty, get?]
  | append_singleton pairs pair ih =>
    obtain ⟨name, text⟩ := pair
    have last : ofPairs (pairs ++ [(name, text)]) = (ofPairs pairs).insert name text := by
      rw [ofPairs, List.foldl_append]
      rfl
    simp only [last, get?_insert, ne_eq, getElem?_concat_eq_some, Prod.mk.injEq]
    split
    case isTrue same =>
      constructor
      · intro found
        refine ⟨pairs.length, .inr ⟨rfl, same, Option.some.inj found⟩, fun j other later => ?_⟩
        simp [Nat.ne_of_gt later, Nat.le_of_lt later]
      · rintro ⟨i, found | ⟨_, _, found⟩, final⟩
        · have inside : i < pairs.length := (List.getElem?_eq_some_iff.mp found).1
          exact absurd (.inr ⟨rfl, same, rfl⟩) (final pairs.length text inside)
        · rw [found]
    case isFalse different => simp [ih, different]

/-- A text stands below the last header of a name that the record reaches. Blanks around a header
do not count. -/
def StandsBelow (header record : List String) (name text : String) : Prop :=
  ∃ i : Nat, header[i]?.map Text.trim = some name ∧ record[i]? = some text ∧
    ∀ j : Nat, i < j → j < record.length → header[j]?.map Text.trim ≠ some name

theorem get?_ofPairs_zip_iff (header record : List String) (name text : String) :
    (ofPairs ((header.map Text.trim).zip record)).get? name = some text ↔
      StandsBelow header record name text := by
  simp only [get?_ofPairs_iff, StandsBelow, ne_eq, List.getElem?_zip_eq_some, List.getElem?_map,
    and_assoc]
  refine exists_congr fun i => and_congr_right fun _ => and_congr_right fun _ => ?_
  constructor
  · intro final j later inside named
    exact final j record[j] later ⟨named, List.getElem?_eq_getElem inside⟩
  · rintro final j other later ⟨named, found⟩
    exact final j later (List.getElem?_eq_some_iff.mp found).1 named

/-- However a header and records were written down, there is one row for each record, in order. In
it a name has the text below the last header of that name, if the record has a field there. -/
theorem ofCsv_of_written {header : List String} {table : List (List String)} {text : String}
    (written : WritesTable (header :: table) text) :
    List.Forall₂ (fun record row => ∀ name value,
      row.get? name = some value ↔ StandsBelow header record name value) table (ofCsv text) := by
  rw [ofCsv, records_of_written written, ofTable, List.forall₂_map_right_iff, List.forall₂_same]
  exact fun record _ => get?_ofPairs_zip_iff header record

/-- Two headers of one name, a mark and empty lines in front, three kinds of line ends and none at
the end. -/
theorem ofCsv_of_written_mixed :
    let text := "\uFEFF\n\r\n name ,\"name\"\r\"a\"\"b\",\"1,\n2\",3\r\n\nonly"
    WritesTable [[" name ", "name"], ["a\"b", "1,\n2", "3"], ["only"]] text ∧
      (ofCsv text).map (·.get? "name") = [some "1,\n2", some "only"] := by
  intro text
  have written : WritesTable [[" name ", "name"], ["a\"b", "1,\n2", "3"], ["only"]] text := by
    have header : WritesRecord [" name ", "name"] _ :=
      ⟨.more (.ordinary (by decide) (by decide)) (.last .quoted), by simp⟩
    have first : WritesRecord ["a\"b", "1,\n2", "3"] _ :=
      ⟨.more .quoted (.more .quoted (.last (.ordinary (by decide) (by decide)))), by simp⟩
    have second : WritesRecord ["only"] _ :=
      ⟨.last (.ordinary (by decide) (by decide)), by decide⟩
    have whole := WritesTable.marked (.more [.feed, .both] .carriage header
      (.more [] .both first (.unended [.feed] second)))
    refine (congrArg (WritesTable _) ?same).mp whole
    case same => decide +kernel
  refine ⟨written, ?_⟩
  have rows := ofCsv_of_written written
  generalize ofCsv text = found at rows
  obtain _ | ⟨first, _ | ⟨second, _ | _⟩⟩ := rows
  have below : StandsBelow [" name ", "name"] ["a\"b", "1,\n2", "3"] "name" "1,\n2" :=
    ⟨1, by decide, by decide, fun j later _ => by rw [List.getElem?_eq_none later]; nofun⟩
  have below' : StandsBelow [" name ", "name"] ["only"] "name" "only" :=
    ⟨0, by decide, by decide, fun j later inside => absurd inside (Nat.not_lt.mpr later)⟩
  rw [List.map_cons, List.map_cons, (first _ _).mpr below, (second _ _).mpr below', List.map_nil]

end TraceWeave.Row
