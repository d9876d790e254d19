/-! Reading comma-separated records.

A line end is a carriage return or a line feed; between records any number of them is skipped.
A quote matters only as the first character of a field. Inside quotes commas and line ends are
text and a doubled quote is one; after the closing quote the field goes on as plain text up to a
comma or a line end. The end of the text ends an open record, quoted or not. -/

namespace TraceWeave.Csv

inductive Place where
  /-- Before the first character of a record. -/
  | recordStart
  /-- Before the first character of a later field. -/
  | fieldStart
  /-- In plain text, where a quote is an ordinary character. -/
  | bare
  /-- Between quotes. -/
  | quoted
  /-- Just after a quote that stands between quotes. -/
  | quoteSeen
  deriving DecidableEq

/-- What has been read, each list with its last element first. -/
structure Reader where
  place : Place
  field : List Char
  record : List String
  records : List (List String)

namespace Reader

def empty : Reader := ⟨.recordStart, [], [], []⟩

def push (r : Reader) (place : Place) (c : Char) : Reader :=
  { r with place, field := c :: r.field }

def endField (r : Reader) : Reader :=
  { r with place := .fieldStart, field := [], record := String.ofList r.field.reverse :: r.record }

def endRecord (r : Reader) : Reader :=
  let r := r.endField
  { r with place := .recordStart, record := [], records := r.record.reverse :: r.records }

def isLineEnd (c : Char) : Bool := c = '\r' || c = '\n'

def plain (r : Reader) (c : Char) : Reader :=
  if c = ',' then r.endField
  else if isLineEnd c then r.endRecord
  else r.push .bare c

def first (r : Reader) (c : Char) : Reader :=
  if c = '"' then { r with place := .quoted } else r.plain c

def step (r : Reader) (c : Char) : Reader :=
  match r.place with
  | .recordStart => if isLineEnd c then r else r.first c
  | .fieldStart => r.first c
  | .bare => r.plain c
  | .quoted => if c = '"' then { r with place := .quoteSeen } else r.push .quoted c
  | .quoteSeen => if c = '"' then r.push .quoted c else r.plain c

def finish (r : Reader) : List (List String) :=
  let r := if r.place = .recordStart then r else r.endRecord
  r.records.reverse

end Reader

/-- The text without a byte order mark at its start. -/
def dropMark : List Char → List Char
  | '\uFEFF' :: rest => rest
  | text => text

/-- All records of a text, the header among them. -/
def records (text : String) : List (List String) :=
  ((dropMark text.toList).foldl Reader.step Reader.empty).finish

end TraceWeave.Csv
