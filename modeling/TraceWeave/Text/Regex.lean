import TraceWeave.Shell.Pattern

/-! Regular expressions in their basic and their extended form.

A match is the longest one at the first place that has any. What the parts of an expression leave
of a text is kept as a list of positions, the preferred ones first and every one once, so finding a
match takes no more steps than the length of the expression and of the text allow. -/

namespace TraceWeave.Text

inductive Regex where
  | empty
  | char (c : Char)
  | anyChar
  | oneOf (negated : Bool) (ranges : List Shell.Pattern.Range)
  | lineStart
  | lineEnd
  | wordEdge (starts ends : Bool)
  | insideWord
  | group (number : Nat) (inner : Regex)
  /-- What a group matched. -/
  | again (number : Nat)
  | sequence (first second : Regex)
  | either (first second : Regex)
  | repeated (inner : Regex) (least : Nat) (most? : Option Nat)

namespace Regex

def groups : Regex → Nat
  | .group number inner => max number inner.groups
  | .sequence first second | .either first second => max first.groups second.groups
  | .repeated inner _ _ => inner.groups
  | _ => 0

/-- How far a match has got, and the places that its groups took up. -/
structure Progress where
  position : Nat
  before? : Option Char
  rest : List Char
  groups : List (Nat × Nat × Nat)

def Progress.next (progress : Progress) : Progress :=
  match progress.rest with
  | [] => progress
  | c :: rest => { progress with position := progress.position + 1, before? := some c, rest }

def Progress.advance (progress : Progress) : Nat → Progress
  | 0 => progress
  | count + 1 => progress.next.advance count

/-- The first of those that have got equally far. -/
def distinct : List Nat → List Progress → List Progress
  | _, [] => []
  | seen, progress :: more =>
    if seen.contains progress.position then distinct seen more
    else progress :: distinct (progress.position :: seen) more

def isWordChar (c : Char) : Bool := c.isAlphanum || c = '_'

def swapCase (c : Char) : Char := if c.isUpper then c.toLower else c.toUpper

structure Subject where
  text : List Char
  /-- Whether upper and lower case count as one. -/
  folded : Bool

def Subject.same (subject : Subject) (a b : Char) : Bool :=
  a == b || (subject.folded && a.toLower == b.toLower)

def Subject.captured (subject : Subject) (progress : Progress) (number : Nat) :
    Option (List Char) :=
  (progress.groups.lookup number).map fun (start, stop) => (subject.text.take stop).drop start

/-- Goes on behind a text if that comes next. -/
def Subject.takeText (subject : Subject) (progress : Progress) : List Char → List Progress
  | [] => [progress]
  | c :: text =>
    match progress.rest with
    | d :: _ => if subject.same c d then subject.takeText progress.next text else []
    | [] => []

/-- Repeats a step; what took more rounds comes first. -/
def rounds (step : Progress → List Progress) : Nat → List Nat → List Progress → List Progress
  | 0, _, _ => []
  | _, _, [] => []
  | fuel + 1, seen, current =>
    let seen := current.map (·.position) ++ seen
    let next := distinct seen (current.flatMap step)
    rounds step fuel seen next ++ current

def times (step : Progress → List Progress) : Nat → List Progress → List Progress
  | 0, current => current
  | count + 1, current => times step count (distinct [] (current.flatMap step))

/-- What is left after each way to match an expression. -/
def follow (subject : Subject) : Regex → Progress → List Progress
  | .empty, progress => [progress]
  | .char c, progress => subject.takeText progress [c]
  | .anyChar, progress => if progress.rest.isEmpty then [] else [progress.next]
  | .oneOf negated ranges, progress =>
    match progress.rest with
    | c :: _ =>
      let holds (c : Char) : Bool := ranges.any (·.admits c)
      let found := holds c || (subject.folded && holds (swapCase c))
      if found != negated then [progress.next] else []
    | [] => []
  | .lineStart, progress => if progress.before?.isNone then [progress] else []
  | .lineEnd, progress => if progress.rest.isEmpty then [progress] else []
  | .wordEdge starts ends, progress =>
    let before := progress.before?.any isWordChar
    let after := progress.rest.head?.any isWordChar
    if (starts && !before && after) || (ends && before && !after) then [progress] else []
  | .insideWord, progress =>
    if progress.before?.any isWordChar == progress.rest.head?.any isWordChar then [progress]
    else []
  | .group number inner, progress =>
    (follow subject inner progress).map fun after =>
      { after with
        groups := (number, progress.position, after.position)
          :: after.groups.filter (·.1 ≠ number) }
  | .again number, progress =>
    match subject.captured progress number with
    | some text => subject.takeText progress text
    | none => []
  | .sequence first second, progress =>
    distinct [] ((follow subject first progress).flatMap (follow subject second))
  | .either first second, progress =>
    distinct [] (follow subject first progress ++ follow subject second progress)
  | .repeated inner least most?, progress =>
    let begun := times (follow subject inner) least [progress]
    let bound := match most? with
      | some most => most - least + 1
      | none => progress.rest.length + 2
    distinct [] (rounds (follow subject inner) bound [] begun)

/-- A match: where it begins and ends, and the places of its groups. -/
structure Match where
  start : Nat
  stop : Nat
  groups : List (Nat × Nat × Nat)

/-- The longest match at one place. -/
def matchAt? (regex : Regex) (subject : Subject) (progress : Progress) : Option Match :=
  match follow subject regex progress with
  | [] => none
  | first :: more =>
    let longest := more.foldl (fun a b => if a.position < b.position then b else a) first
    some ⟨progress.position, longest.position, longest.groups⟩

def searchFrom (regex : Regex) (subject : Subject) : Nat → Progress → Option Match
  | 0, _ => none
  | fuel + 1, progress =>
    match regex.matchAt? subject progress with
    | some found => some found
    | none =>
      if progress.rest.isEmpty then none else searchFrom regex subject fuel progress.next

/-- The first match at a place or behind it. -/
def search? (regex : Regex) (folded : Bool) (text : List Char) (start : Nat) : Option Match :=
  let progress : Progress := Progress.advance ⟨0, none, text, []⟩ start
  regex.searchFrom ⟨text, folded⟩ (progress.rest.length + 1) progress

/-- The text of a group, where the number 0 stands for the whole match. -/
def Match.group (found : Match) (text : List Char) (number : Nat) : List Char :=
  let (start, stop) := if number = 0 then (found.start, found.stop)
    else (found.groups.lookup number).getD (0, 0)
  (text.take stop).drop start

end Regex

end TraceWeave.Text
