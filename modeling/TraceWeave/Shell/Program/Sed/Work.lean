import TraceWeave.Shell.Program.Sed.Script

/-! Running a script over lines.

The space is the text that the script works on, at first a line. A script that has run once prints
the space and begins again with the next line. -/

namespace TraceWeave.Shell.Program.Sed

open TraceWeave.Text (Regex)

/-- A text that is being written, the last character first. A line without an end gets one as soon
as something follows it. -/
structure Output where
  reversed : List Char
  unended : Bool

def Output.none : Output := ⟨[], false⟩

def Output.add (output : Output) (ending : Char) (text : List Char) (ended : Bool) : Output :=
  let before := if output.unended then ending :: output.reversed else output.reversed
  ⟨(if ended then [ending] else []) ++ text.reverse ++ before, !ended⟩

inductive Later where
  | text (text : List Char)
  | file (path : String)

structure Setup where
  steps : Array Step
  silent : Bool
  ending : Char
  /-- The texts of the files that the script reads. -/
  textAt : String → List Char

structure Work where
  space : List Char
  /-- Whether the line had an end. -/
  ended : Bool
  held : List Char
  /-- The lines to come, with their ends. -/
  lines : List (List Char)
  number : Nat
  /-- The steps whose ranges have begun, with the lines where these end if that is known. -/
  ranges : List (Nat × Option Nat)
  replaced : Bool
  previous? : Option Regex
  later : List Later
  output : Output
  /-- The files that are written. -/
  files : List (String × Output)

abbrev Task := StateM Work

namespace Task

def isLast : Task Bool := do return (← get).lines.isEmpty

def put (setup : Setup) (text : List Char) (ended : Bool) : Task Unit :=
  modify fun work => { work with output := work.output.add setup.ending text ended }

def putSpace (setup : Setup) : Task Unit := do
  let work ← get
  put setup work.space work.ended

/-- Prints a text that has its own end. -/
def putText (setup : Setup) (text : List Char) : Task Unit :=
  match text.getLast? with
  | some c => put setup (if c = '\n' then text.dropLast else text) (c = '\n')
  | none => pure ()

def putInFile (setup : Setup) (path : String) : Task Unit := do
  let work ← get
  if path = "/dev/stdout" then putSpace setup
  else
    let output := (work.files.lookup path).getD Output.none
    let output := output.add setup.ending work.space work.ended
    set { work with files := (path, output) :: work.files.filter (·.1 ≠ path) }

def putLater (setup : Setup) : Task Unit := do
  let later := (← get).later
  modify fun work => { work with later := [] }
  later.forM fun
    | .text text => putText setup text
    | .file path => putText setup (setup.textAt path)

/-- Takes the next line if there is one, behind the space or in its place. -/
def takeLine (setup : Setup) (appends : Bool) : Task Bool := do
  putLater setup
  let work ← get
  match work.lines with
  | [] => pure false
  | line :: lines =>
    let text := bare setup.ending line
    set { work with
      space := if appends then work.space ++ setup.ending :: text else text
      ended := text.length < line.length
      lines, number := work.number + 1, replaced := false }
    pure true

/-! ### Addresses -/

/-- The expression that a pattern stands for, which the next empty pattern will stand for too. -/
def expression (pattern : LinePattern) : Task Regex := do
  match pattern.regex? with
  | some regex =>
    modify fun work => { work with previous? := some regex }
    pure regex
  | none => return ((← get).previous?).getD .empty

def isAt (address : Address) : Task Bool := do
  let work ← get
  match address with
  | .line number => pure (work.number == number)
  | .last => isLast
  | .pattern pattern =>
    let regex ← expression pattern
    pure (regex.search? pattern.folded work.space 0).isSome
  | .every first step =>
    if step = 0 then pure (work.number == first)
    else pure (decide (first ≤ work.number) && (work.number - first) % step == 0)
  | .behind _ | .multiple _ => pure false

def beginRange (index : Nat) (ending? : Option Nat) : Task Unit :=
  modify fun work => { work with ranges := (index, ending?) :: work.ranges }

def endRange (index : Nat) : Task Unit :=
  modify fun work => { work with ranges := work.ranges.filter (·.1 ≠ index) }

def continues (index : Nat) (ending? : Option Nat) (second : Address) : Task Bool := do
  match ending? with
  | some last =>
    let number := (← get).number
    if last ≤ number then endRange index
    pure (number ≤ last)
  | none =>
    if ← isAt second then endRange index
    pure true

def concerns (index : Nat) (step : Step) : Task Bool := do
  match step.first?, step.second? with
  | none, _ => pure true
  | some first, none => isAt first
  | some first, some second =>
    match (← get).ranges.lookup index with
    | some ending? => continues index ending? second
    | none =>
      if ← isAt first then
        let number := (← get).number
        let ending? : Option Nat := match second with
          | .line last => some last
          | .behind count => some (number + count)
          | .multiple count =>
            some (if count = 0 then number else (number + count - 1) / count * count)
          | _ => none
        match ending? with
        | some last => if number < last then beginRange index ending?
        | none => beginRange index none
        pure true
      else pure false

/-! ### Replacing -/

/-- The case of what is written next: of the next letter and of the ones behind it. -/
structure Casing where
  one? : Option Bool
  all? : Option Bool

def Casing.apply (casing : Casing) (text : List Char) : List Char :=
  let change (upper? : Option Bool) (c : Char) : Char := match upper? with
    | some true => c.toUpper
    | some false => c.toLower
    | none => c
  match text with
  | [] => []
  | c :: rest =>
    let first? := casing.one?.orElse fun () => casing.all?
    change first? c :: rest.map (change casing.all?)

def written (found : Regex.Match) (space : List Char) : Casing → List Part → List Char
  | _, [] => []
  | casing, part :: parts =>
    let add (text : List Char) : List Char :=
      let after := if text.isEmpty then casing else { casing with one? := none }
      casing.apply text ++ written found space after parts
    match part with
    | .text text => add text
    | .group number => add (found.group space number)
    | .upper true => written found space { casing with one? := some true } parts
    | .lower true => written found space { casing with one? := some false } parts
    | .upper false => written found space ⟨none, some true⟩ parts
    | .lower false => written found space ⟨none, some false⟩ parts
    | .asIs => written found space ⟨none, none⟩ parts

/-- Replaces the matches from a place on; `count` is the number of the next one and `behind?` the
place where the last one ended. Gives back whether anything was replaced. -/
def replaceFrom (replacement : Replacement) (regex : Regex) (space : List Char) :
    Nat → Nat → Nat → Option Nat → List Char × Bool
  | 0, start, _, _ => (space.drop start, false)
  | fuel + 1, start, count, behind? =>
    let rest := replaceFrom replacement regex space fuel
    match regex.search? replacement.pattern.folded space start with
    | none => (space.drop start, false)
    | some found =>
      let before := (space.take found.start).drop start
      let skipped := (space.drop found.stop).take 1
      let (stop, passed) := if found.start = found.stop then (found.stop + 1, skipped)
        else (found.stop, [])
      if found.start = found.stop ∧ behind? = some found.start then
        if space.length ≤ found.start then (before, false)
        else
          let (more, replaced) := rest stop count none
          (before ++ passed ++ more, replaced)
      else
        let chosen := replacement.nth ≤ count
        let text := if chosen then written found space ⟨none, none⟩ replacement.parts
          else found.group space 0
        if (chosen ∧ ¬ replacement.everywhere) ∨ space.length < stop then
          (before ++ text ++ space.drop found.stop, chosen)
        else
          let (more, replaced) := rest stop (count + 1) (some found.stop)
          (before ++ text ++ passed ++ more, chosen || replaced)

def replace (setup : Setup) (replacement : Replacement) : Task Unit := do
  let regex ← expression replacement.pattern
  let work ← get
  let (space, replaced) :=
    replaceFrom replacement regex work.space (work.space.length + 2) 0 1 none
  if replaced then
    set { work with space, replaced := true, previous? := some regex }
    if replacement.prints then putSpace setup
    replacement.file?.forM (putInFile setup)

/-! ### Steps -/

/-- The space so written that every character shows, in lines of a limited length. -/
def listed (space : List Char) : List Char :=
  let shown (c : Char) : List Char := match c with
    | '\\' => "\\\\".toList
    | '\x07' => "\\a".toList
    | '\x08' => "\\b".toList
    | '\x0c' => "\\f".toList
    | '\n' => "\\n".toList
    | '\x0d' => "\\r".toList
    | '\t' => "\\t".toList
    | '\x0b' => "\\v".toList
    | c =>
      if 32 ≤ c.toNat ∧ c.toNat < 127 then [c]
      else
        let digits := Nat.toDigits 8 c.toNat
        '\\' :: List.replicate (3 - digits.length) '0' ++ digits
  let rec fill : Nat → List (List Char) → List Char
    | _, [] => ['$']
    | width, text :: texts =>
      if 69 < width + text.length then '\\' :: '\n' :: text ++ fill text.length texts
      else text ++ fill (width + text.length) texts
  fill 0 (space.map shown)

inductive Next where
  | step
  | at (index : Nat)
  /-- The end of the script, where the space is printed. -/
  | done
  /-- The end without that. -/
  | gone
  /-- The beginning with what is left of the space. -/
  | again
  | quit (status : Nat) (silent : Bool)

def behindGroup (steps : Array Step) (index : Nat) : Nat :=
  let rec search : Nat → Nat → Nat → Nat
    | 0, index, _ => index
    | fuel + 1, index, depth =>
      match steps[index]? with
      | none => index
      | some step =>
        match step.edit, depth with
        | .closeGroup, 0 => index + 1
        | .closeGroup, depth + 1 => search fuel (index + 1) depth
        | .openGroup, depth => search fuel (index + 1) (depth + 1)
        | _, depth => search fuel (index + 1) depth
  search steps.size (index + 1) 0

def labelled? (steps : Array Step) (name : String) : Option Nat :=
  steps.findIdx? fun step => match step.edit with
    | .label other => other = name
    | _ => false

def jump (setup : Setup) (name : String) : Next :=
  if name.isEmpty then .done else ((labelled? setup.steps name).map Next.at).getD .done

def perform (setup : Setup) (index : Nat) (step : Step) : Task Next := do
  let work ← get
  match step.edit with
  | .openGroup | .closeGroup | .label _ => pure .step
  | .jump kind name =>
    match kind, work.replaced with
    | .always, _ => pure (jump setup name)
    | .ifReplaced, replaced | .unlessReplaced, replaced =>
      modify fun work => { work with replaced := false }
      pure (if replaced == (kind == .ifReplaced) then jump setup name else .step)
  | .number =>
    put setup (toString work.number).toList true
    pure .step
  | .append text =>
    set { work with later := work.later ++ [Later.text text] }
    pure .step
  | .insert text =>
    putText setup text
    pure .step
  | .change text =>
    if (work.ranges.lookup index).isNone || step.negated then putText setup text
    pure .gone
  | .delete => pure .gone
  | .deleteFirst =>
    let first := work.space.takeWhile (· ≠ '\n')
    if first.length < work.space.length then
      set { work with space := work.space.drop (first.length + 1) }
      pure .again
    else pure .gone
  | .print =>
    putSpace setup
    pure .step
  | .printFirst =>
    put setup (work.space.takeWhile (· ≠ '\n')) true
    pure .step
  | .next =>
    if ← isLast then pure .done
    else
      if !setup.silent then putSpace setup
      let _ ← takeLine setup false
      pure .step
  | .nextAppended =>
    if ← isLast then pure .done
    else
      let _ ← takeLine setup true
      pure .step
  | .quit status silent => pure (.quit status silent)
  | .hold appends =>
    set { work with held := if appends then work.held ++ '\n' :: work.space else work.space }
    pure .step
  | .recall appends =>
    set { work with space := if appends then work.space ++ '\n' :: work.held else work.held }
    pure .step
  | .exchange =>
    set { work with space := work.held, held := work.space }
    pure .step
  | .list =>
    put setup (listed work.space) true
    pure .step
  | .readFile path =>
    set { work with later := work.later ++ [Later.file path] }
    pure .step
  | .writeFile path =>
    putInFile setup path
    pure .step
  | .replace replacement =>
    replace setup replacement
    pure .step
  | .convert table =>
    set { work with space := work.space.map fun c => (table.lookup c).getD c }
    pure .step

/-- How a script is left: at its end, so that the next line follows, or for good. -/
inductive Left where
  | line
  | again
  | quit (status : Nat)

def runFrom (setup : Setup) : Nat → Nat → Task Left
  | 0, _ => pure (.quit 4)
  | fuel + 1, index => do
    match setup.steps[index]? with
    | none => finish
    | some step =>
      if (← concerns index step) != step.negated then
        match ← perform setup index step with
        | .step => runFrom setup fuel (index + 1)
        | .at index => runFrom setup fuel index
        | .done => finish
        | .gone => pure .line
        | .again => pure .again
        | .quit status silent =>
          if !silent then
            let _ ← finish
          pure (.quit status)
      else
        match step.edit with
        | .openGroup => runFrom setup fuel (behindGroup setup.steps index)
        | _ => runFrom setup fuel (index + 1)
where
  finish : Task Left := do
    if !setup.silent then putSpace setup
    pure .line

/-- How many steps are made at most for one line, and how many times the script runs at most. -/
def maxSteps : Nat := 1000000

/-- Runs the script for one line after the other; gives back the status if the script ends. -/
def runAll (setup : Setup) : Nat → Bool → Task (Option Nat)
  | 0, _ => pure none
  | fuel + 1, fresh => do
    if ← (if fresh then takeLine setup false else pure true) then
      match ← runFrom setup maxSteps 0 with
      | .line => runAll setup fuel true
      | .again =>
        putLater setup
        runAll setup fuel false
      | .quit status =>
        putLater setup
        pure (some status)
    else pure none

end Task

/-- The steps whose range has begun before the first line. -/
def begunRanges (steps : Array Step) : List (Nat × Option Nat) :=
  (List.range steps.size).filterMap fun index =>
    match (steps[index]?).bind Step.first? with
    | some (.line 0) => some (index, none)
    | _ => none

def Work.ofLines (setup : Setup) (lines : List (List Char)) : Work where
  space := []
  ended := true
  held := []
  lines
  number := 0
  ranges := begunRanges setup.steps
  replaced := false
  previous? := none
  later := []
  output := Output.none
  files := []

/-- Runs the script over some lines; gives back the status if the script ended. -/
def Work.ofText (setup : Setup) (lines : List (List Char)) : Option Nat × Work :=
  let (status?, work) := Task.runAll setup Task.maxSteps true (Work.ofLines setup lines)
  (status?, (Task.putLater setup work).2)

end TraceWeave.Shell.Program.Sed
