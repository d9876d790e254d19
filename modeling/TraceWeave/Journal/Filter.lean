import TraceWeave.Decimal.Nearest
import TraceWeave.Journal
import TraceWeave.Text.Blank
import TraceWeave.Text.Letter

/-! Which log records are shown.

A filter is a list of directives with commas between them. A directive is a level for all records,
or the start of the names of some parts of the program with a level for them; brackets behind that
start name a span, or fields that a record must have. Of the directives that are about a record
the most specific one decides: the longest start of a name, and then the one that asks for a
field. A directive about a span decides nothing, since no record is from inside one. -/

namespace TraceWeave

/-- How much is shown: the detail of a level, or 0 for nothing. -/
abbrev Verbosity := Nat

namespace Verbosity

def all : Verbosity := LogLevel.trace.detail

def ofNumber? (word : List Char) : Option Verbosity :=
  let digits := if word.head? = some '+' then word.drop 1 else word
  if digits ≠ [] ∧ digits.all Char.isDigit then
    let n := digits.foldl (fun n d => 10 * n + (d.toNat - '0'.toNat)) 0
    if n ≤ all then some n else none
  else none

/-- A level by its number or by its name in any case of letters. -/
def read? (word : List Char) : Option Verbosity :=
  (ofNumber? word).orElse fun () =>
    match (String.ofList word).toLower with
    | "off" => some 0
    | "error" => some 1
    | "warn" => some 2
    | "info" => some 3
    | "debug" => some 4
    | "trace" => some 5
    | _ => none

end Verbosity

structure FieldMatch where
  name : String
  valued : Bool
  deriving DecidableEq

structure Directive where
  /-- What the names of the parts start with. -/
  source? : Option String
  span? : Option String
  field? : Option FieldMatch
  verbosity : Verbosity
  deriving DecidableEq

namespace Directive

/-- Whether a repetition can stand behind what was read so far of a pattern, in how many sets it
is and whether the innermost one has nothing in it yet, and how many groups are open. -/
structure PatternState where
  repeatable : Bool
  sets : Nat
  fresh : Bool
  groups : Nat
  escaped : Bool
  sound : Bool

/-- Whether a backslash can stand in front of a character. -/
def isEscapable (c : Char) : Bool :=
  if c.isAlphanum then "dDsSwWpPxuUaftnrvAz".toList.contains c
  else c.toNat < 0x80 && c ≠ '<' && c ≠ '>'

def PatternState.read (s : PatternState) (c : Char) : PatternState :=
  if s.escaped then
    { s with escaped := false, fresh := false, repeatable := true,
             sound := s.sound && isEscapable c }
  else if c = '\\' then { s with escaped := true }
  else if c = '[' then { s with sets := s.sets + 1, fresh := true }
  else if s.sets ≠ 0 then
    if c = ']' ∧ ¬ s.fresh then { s with sets := s.sets - 1, repeatable := true }
    else { s with fresh := s.fresh && c = '^' }
  else if c = '(' then { s with groups := s.groups + 1, repeatable := false }
  else if c = ')' then
    { s with groups := s.groups - 1, repeatable := true, sound := s.sound && s.groups ≠ 0 }
  else if c = '|' then { s with repeatable := false }
  else if c = '\x7b' then { s with sound := false }
  else if c = '*' ∨ c = '+' then { s with sound := s.sound && s.repeatable }
  else if c = '?' then { s with sound := s.sound && (s.repeatable || s.groups ≠ 0) }
  else { s with repeatable := true }

/-- Whether a value of a field is a number or a pattern. -/
def isValue (value : List Char) : Bool :=
  (Binary64.read? value).isSome ||
    let s := value.foldl PatternState.read ⟨false, 0, false, 0, false, true⟩
    s.sound && !s.escaped && s.sets = 0 && s.groups = 0

def fieldOf? (text : List Char) : Option FieldMatch :=
  let name := String.ofList (text.takeWhile (· ≠ '='))
  if text = [] then none
  else
    match text.dropWhile (· ≠ '=') with
    | [] => some ⟨name, false⟩
    | _ :: rest => if isValue (rest.takeWhile (· ≠ '=')) then some ⟨name, true⟩ else none

/-- The level at the end of a directive, which shows all where there is none. -/
def level? (word : List Char) : Option Verbosity :=
  if word = [] then some Verbosity.all else Verbosity.read? word

/-- Reads a directive. Its parts are found without the blanks around it, but cut from the text
with them, so blanks in front of it spoil it. -/
def read? (text : List Char) : Option Directive :=
  let shown := Text.trimChars text
  let cut (start stop : Nat) : List Char := (text.drop start).take (stop - start)
  let upTo (start : Nat) (stops : List Char) : Nat :=
    start + ((shown.drop start).takeWhile (!stops.contains ·)).length
  let leveled (source? span? : Option String) (field? : Option FieldMatch) (start : Nat) :
      Option Directive :=
    match shown.drop start with
    | [] => some ⟨source?, span?, field?, Verbosity.all⟩
    | '=' :: _ => (level? (text.drop (start + 1))).map (⟨source?, span?, field?, ·⟩)
    | _ => none
  let bracketed (source? : Option String) (start : Nat) : Option Directive :=
    let stop := upTo start [']', '\x7b']
    let span := String.ofList (cut start stop)
    match shown.drop stop with
    | ']' :: _ => leveled source? (some span) none (stop + 1)
    | _ :: _ => do
      let close := upTo (stop + 1) ['\x7d']
      let field ← fieldOf? (cut (stop + 1) close)
      if (shown.drop close).take 2 = ['\x7d', ']'] then
        leveled source? (if span.isEmpty then none else some span) (some field) (close + 2)
      else none
    | [] => none
  let stop := upTo 0 ['=', '[']
  let source := String.ofList (cut 0 stop)
  match shown with
  | [] => none
  | '[' :: _ => bracketed none 1
  | c :: _ =>
    if Text.isLetterOrNumber c ∨ "-:_".toList.contains c then
      match shown.drop stop with
      | '[' :: _ => bracketed (some source) (stop + 1)
      | '=' :: _ => leveled (some source) none none stop
      | _ =>
        match Verbosity.read? text with
        | some verbosity => some ⟨none, none, none, verbosity⟩
        | none => some ⟨some (String.ofList text), none, none, Verbosity.all⟩
    else none

def recordField : String := "message"

/-- Whether a directive is about the records of a part. -/
def concerns (directive : Directive) (source : LogSource) : Bool :=
  directive.span?.isNone
    && (directive.source?.all fun start => source.name.startsWith start)
    && (directive.field?.all fun field => !field.valued && field.name = recordField)

/-- Larger for what is more specific. -/
def rank (directive : Directive) : Nat :=
  2 * (directive.source?.map (·.utf8ByteSize + 1)).getD 0
    + (if directive.field?.isSome then 1 else 0)

end Directive

abbrev LogFilter := List Directive

namespace LogFilter

def upTo (verbosity : Verbosity) : LogFilter := [⟨none, none, none, verbosity⟩]

/-- Reads the directives between commas. Without any, errors are shown. -/
def read? (text : String) : Option LogFilter := do
  let texts := (text.toList.splitOn ',').filter (· ≠ [])
  let directives ← texts.mapM Directive.read?
  some (if directives.isEmpty then upTo LogLevel.error.detail else directives)

/-- The directive that decides: of the most specific ones the last. -/
def deciding? (filter : LogFilter) (source : LogSource) : Option Directive :=
  (filter.filter (·.concerns source)).foldl (fun best? directive =>
    match best? with
    | none => some directive
    | some best => if directive.rank < best.rank then best? else some directive) none

def admits (filter : LogFilter) (record : LogRecord) : Bool :=
  (filter.deciding? record.source).any fun directive =>
    record.level.detail ≤ directive.verbosity

def shows (filter : LogFilter) : Remark → Bool
  | .log record => filter.admits record
  | .plain _ => true

end LogFilter

end TraceWeave
