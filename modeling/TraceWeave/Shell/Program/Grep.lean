import TraceWeave.Shell.Program.Reading
import TraceWeave.Text.Regex.Reader

/-! The program that finds lines. -/

namespace TraceWeave.Shell.Program

open TraceWeave.Text (Regex)

structure Search where
  patterns : List Regex
  folded : Bool
  inverted : Bool
  wholeLine : Bool
  wholeWord : Bool

namespace Search

def standsAlone (text : List Char) (found : Regex.Match) : Bool :=
  let before := if found.start = 0 then none else text[found.start - 1]?
  !before.any Regex.isWordChar && !(text[found.stop]?).any Regex.isWordChar

def first? (search : Search) (text : List Char) (pattern : Regex) : Nat → Nat →
    Option Regex.Match
  | 0, _ => none
  | fuel + 1, start =>
    match pattern.search? search.folded text start with
    | none => none
    | some found =>
      let fits :=
        if search.wholeLine then found.start = 0 ∧ found.stop = text.length
        else ¬ search.wholeWord ∨ standsAlone text found
      if fits then some found
      else if text.length ≤ found.start then none
      else first? search text pattern fuel (found.start + 1)

def match? (search : Search) (text : List Char) (start : Nat) : Option Regex.Match :=
  (search.patterns.filterMap fun pattern =>
    search.first? text pattern (text.length + 2) start).foldl (fun best? found =>
      match best? with
      | none => some found
      | some best =>
        if found.start < best.start ∨ (found.start = best.start ∧ best.stop < found.stop) then
          some found
        else some best) none

def admits (search : Search) (text : List Char) : Bool :=
  (search.match? text 0).isSome != search.inverted

def matches' (search : Search) (text : List Char) : Nat → Nat → List (Nat × List Char)
  | 0, _ => []
  | fuel + 1, start =>
    match search.match? text start with
    | none => []
    | some found =>
      if found.stop = found.start then
        if text.length ≤ found.start then [] else matches' search text fuel (found.start + 1)
      else (found.start, found.group text 0) :: matches' search text fuel found.stop

end Search

structure Display where
  titled : Bool
  numbered : Bool
  offsets : Bool
  before : Nat
  after : Nat
  onlyMatches : Bool

/-- A line with its number, its place and whether it was found. -/
structure FoundLine where
  number : Nat
  offset : Nat
  text : List Char
  found : Bool

def Display.line (display : Display) (title : String) (sign : Char) (number offset : Nat)
    (text : List Char) : List Char :=
  (if display.titled then title.toList ++ [sign] else [])
    ++ (if display.numbered then (toString number).toList ++ [sign] else [])
    ++ (if display.offsets then (toString offset).toList ++ [sign] else [])
    ++ text ++ ['\n']

/-- The numbers of the lines that are shown: the found ones and those around them. -/
def Display.shows (display : Display) (found : List Nat) (number : Nat) : Bool :=
  found.any fun n => decide (n ≤ number + display.before ∧ number ≤ n + display.after)

/-- The lines to show, with a mark between those that do not follow each other. -/
def Display.text (display : Display) (search : Search) (title : String) (lines : List FoundLine) :
    List Char :=
  let found := (lines.filter (·.found)).map (·.number)
  let grouped := decide (0 < display.before ∨ 0 < display.after)
  if display.onlyMatches then
    (lines.filter (·.found)).flatMap fun line =>
      (search.matches' line.text (line.text.length + 2) 0).flatMap fun (start, text) =>
        display.line title ':' line.number (line.offset + start) text
  else
    let shown := lines.filter fun line => display.shows found line.number
    (shown.zipIdx.map fun (line, i) =>
      let gap := grouped && decide (0 < i)
        && ((shown[i - 1]?).map (·.number)) != some (line.number - 1)
      (if gap then "--\n".toList else [])
        ++ display.line title (if line.found then ':' else '-') line.number line.offset
          line.text).flatten

def foundLines (search : Search) : Nat → Nat → List (List Char) → List FoundLine
  | _, _, [] => []
  | number, offset, line :: lines =>
    let text := bare '\n' line
    ⟨number, offset, text, search.admits text⟩
      :: foundLines search (number + 1) (offset + line.length) lines

def upTo : Nat → List FoundLine → List FoundLine
  | _, [] => []
  | 0, _ => []
  | count + 1, line :: lines => line :: upTo (if line.found then count else count + 1) lines

def grepForms : List OptionForm :=
  [flag 'v' "invert-match", flag 'c' "count", flag 'i' "ignore-case", flag 'n' "line-number",
    flag 'l' "files-with-matches", flag 'L' "files-without-match", flag 'q' "quiet",
    flag 's' "no-messages", flag 'o' "only-matching", flag 'w' "word-regexp",
    flag 'x' "line-regexp", flag 'E' "extended-regexp", flag 'F' "fixed-strings",
    flag 'G' "basic-regexp", flag 'P' "perl-regexp", needing 'e' "regexp", needing 'f' "file",
    needing 'm' "max-count", flag 'h' "no-filename", flag 'H' "with-filename",
    flag 'r' "recursive", needing 'A' "after-context", needing 'B' "before-context",
    needing 'C' "context", flag 'a' "text", flag 'b' "byte-offset", ⟨none, "color", .optional⟩,
    ⟨none, "silent", .none⟩] ++ flags "yRUIzZ"

/-- The paths of the files below a directory, in the order of their names. -/
def filesBelow (files : Files) (path : String) : List String :=
  match files.find (Raw.text path) with
  | .ok (place, .directory) =>
    let found := (files.within place).filter fun (_, entry) => match entry with
      | .file .. => true
      | _ => false
    let paths := found.map fun (other, _) =>
      path ++ "/" ++ "/".intercalate ((other.drop place.length).map Raw.ofText)
    paths.mergeSort fun a b => !decide (b < a)
  | _ => [path]

def grepText (arguments : Arguments) (search : Search) (display : Display) (limit? : Option Nat)
    (title text : String) : StateM Desk Bool := do
  let all := foundLines search 1 0 (linesOf '\n' text.toList)
  let lines := (limit?.map fun limit => upTo limit all).getD all
  let count := (lines.filter (·.found)).length
  let named := (if display.titled then title ++ ":" else "")
  if arguments.has "q" then pure ()
  else if arguments.has "l" then if 0 < count then Desk.print (title ++ "\n")
  else if arguments.has "L" then if count = 0 then Desk.print (title ++ "\n")
  else if arguments.has "c" then Desk.print (named ++ toString count ++ "\n")
  else if text.contains '\x00' ∧ ¬ arguments.has "a" then
    if 0 < count then Desk.print ("grep: " ++ title ++ ": binary file matches\n")
  else Desk.printChars (display.text search title lines)
  pure (if arguments.has "L" then count == 0 else decide (0 < count))

def misuseGrep (complaint? : Option String) : StateM Desk Unit := do
  complaint?.forM Desk.complain
  Desk.note "Usage: grep [OPTION]... PATTERNS [FILE]..."
  Desk.note "Try 'grep --help' for more information."
  Desk.setStatus 2

/-- The patterns that some arguments give, and the paths. -/
def grepPatterns (arguments : Arguments) : StateM Desk (Option (List String × List String)) := do
  let given := arguments.options.filter fun (key, _) => key = "e" || key = "f"
  if given.isEmpty then
    match arguments.operands with
    | [] => pure none
    | text :: paths => pure (some (text.splitOn "\n", paths))
  else
    let found ← given.mapM fun (key, value) => do
      if key = "e" then pure (value.splitOn "\n")
      else
        match ← Desk.content value with
        | .text text => pure (bareLines text)
        | .unopened cause | .unread cause =>
          Desk.complain (value ++ ": " ++ cause.reason)
          pure []
    pure (some (found.flatten, arguments.operands))

def grepWith (extended fixed : Bool) (arguments : Arguments) : StateM Desk Unit := do
  match ← grepPatterns arguments with
  | none => misuseGrep none
  | some (texts, paths) =>
    if (← get).status = 2 then return ()
    let extended := extended || arguments.has "E" || arguments.has "P"
    let fixed := fixed || arguments.has "F"
    let compiled := texts.mapM fun text =>
      if fixed then .ok (Regex.ofText text.toList) else Regex.read extended text.toList
    let number (key : String) : Option Nat := (arguments.value? key).bind String.toNat?
    let around := (number "C").getD 0
    let wrong := ["A", "B", "C"].filterMap fun key => (arguments.value? key).bind fun text =>
      if text.toNat?.isNone then some text else none
    match compiled, wrong with
    | .error why, _ => Desk.complain why
    | _, text :: _ => Desk.complain (text ++ ": invalid context length argument")
    | .ok patterns, [] =>
      let has := arguments.has
      let search : Search := ⟨patterns, has "i" || has "y", has "v", has "x", has "w"⟩
      let recursive := has "r" || has "R"
      let files := (← get).system.files
      let named := if paths.isEmpty then [if recursive then "." else "-"] else paths
      let sources := if recursive then named.flatMap (filesBelow files) else named
      let titled := (decide (1 < paths.length) || has "H" || recursive) && !has "h"
      let display : Display := ⟨titled, has "n", has "b", (number "B").getD around,
        (number "A").getD around, has "o"⟩
      let results ← sources.mapM fun path => do
        match ← Desk.content path with
        | .text text =>
          let title := if path = "-" then "(standard input)" else path
          grepText arguments search display (number "m") title text
        | .unopened cause | .unread cause =>
          if has "s" then Desk.setStatus 2 else Desk.complain (path ++ ": " ++ cause.reason)
          pure false
      let found := results.any id
      if has "q" ∧ found then Desk.setStatus 0
      else if (← get).status = 0 ∧ ¬ found then Desk.setStatus 1

def grepAs (extended fixed : Bool) : Program := fun arguments => do
  modify fun desk => { desk with trouble := 2, name := "grep" }
  match Arguments.read grepForms false arguments with
  | .ok arguments => grepWith extended fixed arguments
  | .error text => misuseGrep (some text)

def grep : Program := grepAs false false

end TraceWeave.Shell.Program
