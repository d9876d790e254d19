import TraceWeave.Shell.Program.Sed.Work

/-! Editing lines by a script. -/

namespace TraceWeave.Shell.Program.Sed

def missingLabels (steps : Array Step) : List String :=
  steps.toList.filterMap fun step => match step.edit with
    | .jump _ name =>
      if name.isEmpty ∨ (Task.labelled? steps name).isSome then none else some name
    | _ => none

def writtenPaths (steps : Array Step) : List String :=
  (steps.toList.filterMap fun step => match step.edit with
    | .writeFile path => some path
    | .replace replacement => replacement.file?
    | _ => none).filter (· ≠ "/dev/stdout")

def readPaths (steps : Array Step) : List String :=
  steps.toList.filterMap fun step => match step.edit with
    | .readFile path => some path
    | _ => none

/-- The script that some texts make up, or what is wrong with one of them. -/
def scriptOf (extended : Bool) (texts : List String) : Except String (Array Step) :=
  let faulty? := (texts.mapIdx fun index text => (index, text)).findSome? fun (index, text) =>
    match read extended text with
    | .ok _ => none
    | .error why =>
      if texts.length = 1 ∨ why.startsWith "char 0" ∨ (read extended
          ("\n".intercalate texts)).isOk then none
      else some (index, why)
  match faulty?, read extended ("\n".intercalate texts) with
  | some (index, why), _ =>
    .error ("-e expression #" ++ toString (index + 1) ++ ", " ++ why)
  | none, .error why => .error ("-e expression #1, " ++ why)
  | none, .ok steps =>
    match missingLabels steps.toArray with
    | name :: _ => .error ("can't find label for jump to \x60" ++ name ++ "'")
    | [] => .ok steps.toArray

/-- Writes a status down unless there is a worse one. -/
def raiseStatus (status : Nat) : StateM Desk Unit := do
  if (← get).status < status then Desk.setStatus status

/-- The text at a path, or a complaint. -/
def input? (path : String) : StateM Desk (Option String) := do
  match ← Desk.content path with
  | .text text => pure (some text)
  | .unopened cause =>
    Desk.note ("sed: can't read " ++ path ++ ": " ++ cause.reason)
    raiseStatus 2
    pure none
  | .unread cause =>
    Desk.note ("sed: read error on " ++ path ++ ": " ++ cause.reason)
    raiseStatus 4
    pure none

def storeFiles (work : Work) : StateM Desk Unit :=
  work.files.forM fun (path, output) => do
    let _ ← Desk.store path (String.ofList output.reversed.reverse) true

/-- Edits a file where it is; its old text may be kept under another name. -/
def editInPlace (setup : Setup) (backup : String) (path : String) : StateM Desk (Option Nat) := do
  match ← Desk.find path with
  | .ok (_, .directory) | .ok (_, .device _) =>
    Desk.note ("sed: couldn't edit " ++ path ++ ": not a regular file")
    raiseStatus 4
    pure none
  | _ =>
    match ← input? path with
    | none => pure none
    | some text =>
      let (status?, work) := Work.ofText setup (linesOf setup.ending text.toList)
      if !backup.isEmpty then
        let _ ← Desk.store (if backup.contains '*' then backup.replace "*" path else path ++ backup)
          text false
      let rest := work.lines.flatten
      let before := if work.output.unended && !rest.isEmpty then [setup.ending] else []
      let _ ← Desk.store path (String.ofList (work.output.reversed.reverse ++ before ++ rest)) false
      storeFiles work
      pure status?

def forms : List OptionForm :=
  [flag 'n' "quiet", ⟨none, "silent", .none⟩, flag 'r' "regexp-extended", flag 'E' "",
    flag 's' "separate", flag 'z' "null-data", flag 'u' "unbuffered", needing 'e' "expression",
    needing 'f' "file", needing 'l' "line-length", ⟨some 'i', "in-place", .optional⟩,
    ⟨none, "posix", .none⟩, ⟨none, "debug", .none⟩]

/-- The texts of a script among the options, or the file that one is not to be had from. -/
def scriptTexts (options : List (String × String)) : StateM Desk (Except String (List String)) :=
  match options with
  | [] => pure (.ok [])
  | (key, value) :: rest => do
    let more ← scriptTexts rest
    match key with
    | "e" => pure (more.map (value :: ·))
    | "f" =>
      match ← Desk.content value with
      | .text text => pure (more.map ("\n".intercalate (bareLines text) :: ·))
      | .unopened cause | .unread cause =>
        pure (.error ("couldn't open file " ++ value ++ ": " ++ cause.reason))
    | _ => pure more

def usage : String :=
  "Usage: sed [OPTION]... \x7bscript-only-if-no-other-script\x7d [input-file]..."

def editTogether (setup : Setup) (paths : List String) : StateM Desk (Option Nat) := do
  let texts ← paths.filterMapM input?
  let lines := texts.flatMap fun text => linesOf setup.ending text.toList
  let (status?, work) := Work.ofText setup lines
  Desk.printChars work.output.reversed.reverse
  storeFiles work
  Desk.giveBack work.lines.flatten.length
  pure status?

def untilEnded (edit : String → StateM Desk (Option Nat)) : List String → StateM Desk (Option Nat)
  | [] => pure none
  | path :: paths => do
    match ← edit path with
    | none => untilEnded edit paths
    | some status => pure (some status)

def run (arguments : Arguments) : StateM Desk Unit := do
  match ← scriptTexts arguments.options with
  | .error why =>
    Desk.note ("sed: " ++ why)
    Desk.setStatus 4
  | .ok given =>
    let (texts, operands) := if given.isEmpty then
        (arguments.operands.take 1, arguments.operands.drop 1)
      else (given, arguments.operands)
    if texts.isEmpty then
      Desk.note usage
      Desk.setStatus 1
    else
      match scriptOf (arguments.has "E" || arguments.has "r") texts with
      | .error why =>
        Desk.note ("sed: " ++ why)
        Desk.setStatus (if why.startsWith "can't" then 4 else 1)
      | .ok steps =>
        let found ← (readPaths steps).mapM fun path => do
          match ← Desk.content path with
          | .text text => pure (path, text.toList)
          | _ => pure (path, [])
        let setup : Setup := {
          steps
          silent := arguments.has "n" || arguments.has "quiet" || arguments.has "silent"
          ending := if arguments.has "z" then '\x00' else '\n'
          textAt := fun path => (found.lookup path).getD [] }
        (writtenPaths steps).forM fun path => do
          let _ ← Desk.store path "" false
        let paths := sources operands
        let status? ← match arguments.value? "i" with
          | some backup => untilEnded (editInPlace setup backup) paths
          | none =>
            if arguments.has "s" then untilEnded (fun path => editTogether setup [path]) paths
            else editTogether setup paths
        status?.forM fun status => Desk.setStatus status

end Sed

def sed : Program := fun arguments =>
  match Arguments.read Sed.forms false arguments with
  | .ok arguments => Sed.run arguments
  | .error text => do
    Desk.complain text
    Desk.note Sed.usage

end TraceWeave.Shell.Program
