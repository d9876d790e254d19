import TraceWeave.Shell.Program.Placing
import TraceWeave.Shell.Program.Reading

/-! Programs that show names, directories and differences between files. -/

namespace TraceWeave.Shell.Program

/-! ### Names -/

/-- The last name of a path without an ending, which is kept where it is all of the name. -/
def shortName (path ending : String) : String :=
  let name := if path ≠ "" ∧ path.all (· = '/') then "/" else lastName path
  if ending ≠ "" ∧ name ≠ ending ∧ name.endsWith ending then
    String.ofList (name.toList.take (name.length - ending.length))
  else name

def basename : Program := fun given =>
  match Arguments.read [flag 'a' "multiple", needing 's' "suffix", flag 'z' "zero"] true given with
  | .error text => Desk.misuse text
  | .ok arguments =>
    let ending := if arguments.has "z" then "\x00" else "\n"
    let several := arguments.has "a" || arguments.has "s"
    match arguments.operands with
    | [] => Desk.misuse "missing operand"
    | path :: more =>
      if several then
        arguments.operands.forM fun path =>
          Desk.print (shortName path ((arguments.value? "s").getD "") ++ ending)
      else
        match more with
        | _ :: extra :: _ => Desk.misuse ("extra operand " ++ Desk.quoted extra)
        | _ => Desk.print (shortName path (more.headD "") ++ ending)

def upperName (path : String) : String :=
  (upper? path).getD (if path.startsWith "/" then "/" else ".")

def dirname : Program := .withOptions [flag 'z' "zero"] fun arguments => do
  let ending := if arguments.has "z" then "\x00" else "\n"
  if arguments.operands.isEmpty then Desk.misuse "missing operand"
  else arguments.operands.forM fun path => Desk.print (upperName path ++ ending)

def placePath (place : Place) : String := "/" ++ "/".intercalate (place.map Raw.ofText)

def pwd : Program := fun _ => do
  Desk.print (placePath (← get).system.files.workingDirectory ++ "\n")

/-- Where a path leads. The last name need not exist, except where all have to. -/
def resolved (path : String) (strict loose : Bool) : StateM Desk (Except Cause String) := do
  match ← Desk.find path with
  | .ok (place, _) => pure (.ok (placePath place))
  | .error cause =>
    let files := (← get).system.files
    let directory := upperName path
    match files.find (Raw.text directory) with
    | .ok (place, .directory) =>
      if strict then pure (.error cause)
      else pure (.ok (placePath (place ++ [Raw.text (lastName path)])))
    | _ => pure (if loose then .ok path else .error cause)

def realpath : Program := .withOptions
    [flag 'e' "canonicalize-existing", flag 'm' "canonicalize-missing", flag 'q' "quiet",
      flag 's' "strip", flag 'L' "logical", flag 'P' "physical"] fun arguments => do
  if arguments.operands.isEmpty then Desk.misuse "missing operand"
  else
    arguments.operands.forM fun path => do
      match ← resolved path (arguments.has "e") (arguments.has "m") with
      | .ok found => Desk.print (found ++ "\n")
      | .error cause =>
        if arguments.has "q" then Desk.setStatus 1
        else Desk.complain (path ++ ": " ++ cause.reason)

def readlink : Program := .withOptions
    [flag 'f' "canonicalize", flag 'e' "canonicalize-existing", flag 'm' "canonicalize-missing",
      flag 'n' "no-newline", flag 'q' "quiet", flag 's' "silent", flag 'v' "verbose"]
    fun arguments => do
  let resolves := ["f", "e", "m"].any arguments.has
  if arguments.operands.isEmpty then Desk.misuse "missing operand"
  else
    arguments.operands.forM fun path => do
      match ← resolved path (arguments.has "e") (arguments.has "m"), resolves with
      | .ok found, true => Desk.print (found ++ (if arguments.has "n" then "" else "\n"))
      | _, _ => Desk.setStatus 1

/-! ### Directories -/

def kindSign (arguments : Arguments) (entry : Entry) : String :=
  let all := arguments.has "F"
  match entry with
  | .directory => if all || arguments.has "p" then "/" else ""
  | .file _ true | .program _ => if all then "*" else ""
  | _ => ""

/-- The names in a directory that are listed, each as it is shown. -/
def listedNames (arguments : Arguments) (place : Place) : StateM Desk (List String) := do
  let files := (← get).system.files
  let everything := arguments.has "a"
  let names := (files.names place).filter fun name =>
    everything || arguments.has "A" || !name.startsWith "."
  let shown := names.map fun name =>
    Raw.ofText name ++ ((files.entry? (place ++ [name])).map (kindSign arguments)).getD ""
  let dots := if everything then
      [".", ".."].map (· ++ kindSign arguments .directory)
    else []
  let all := dots ++ shown
  pure (if arguments.has "r" then all.reverse else all)

def printNames (arguments : Arguments) (names : List String) : StateM Desk Unit :=
  if names.isEmpty then pure ()
  else if arguments.has "m" then Desk.print (", ".intercalate names ++ "\n")
  else names.forM fun name => Desk.print (name ++ "\n")

/-- Lists directories with a title for each, the ones below them too where that is asked for. -/
def listDirectories (arguments : Arguments) : Nat → Bool → Bool → List (String × Place) →
    StateM Desk Unit
  | 0, _, _, _ | _, _, _, [] => pure ()
  | fuel + 1, first, titled, (path, place) :: more => do
    if titled then Desk.print ((if first then "" else "\n") ++ path ++ ":\n")
    printNames arguments (← listedNames arguments place)
    let files := (← get).system.files
    let inner := (files.names place).filterMap fun name =>
      match files.entry? (place ++ [name]) with
      | some .directory =>
        if name.startsWith "." ∧ ¬ arguments.has "a" ∧ ¬ arguments.has "A" then none
        else some (below path (Raw.ofText name), place ++ [name])
      | _ => none
    listDirectories arguments fuel false titled ((if arguments.has "R" then inner else []) ++ more)

def ls : Program := .troubled 2 <| .withOptions
    (flags "1lhtSUcCxkinos" ++ [flag 'a' "all", flag 'A' "almost-all", flag 'd' "directory",
      flag 'r' "reverse", flag 'R' "recursive", flag 'p' "", flag 'F' "classify", flag 'm' "",
      flag 'L' "", flag 'N' "", flag 'q' "", ⟨none, "color", .optional⟩]) fun arguments => do
  let paths := (if arguments.operands.isEmpty then ["."] else arguments.operands).mergeSort
    fun a b => !decide (b < a)
  let paths := if arguments.has "r" then paths.reverse else paths
  let found ← paths.filterMapM fun path => do
    match ← Desk.find path with
    | .ok (place, entry) => pure (some (path, place, entry))
    | .error cause =>
      cannot ("access " ++ Desk.quoted path) cause
      pure none
  let isListed (entry : Entry) : Bool := match entry with
    | .directory => !arguments.has "d"
    | _ => false
  let (directories, files) := found.partition fun (_, _, entry) => isListed entry
  printNames arguments (files.map fun (path, _, entry) => path ++ kindSign arguments entry)
  let titled := 1 < paths.length || arguments.has "R"
  let count := (← get).system.files.entries.size + paths.length + 1
  listDirectories arguments count files.isEmpty titled
    (directories.map fun (path, place, _) => (path, place))

/-! ### Differences -/

/-- The number of the first character that two texts do not share, and of its line. -/
def firstDifference : List Char → List Char → Nat → Nat → Nat × Nat × Char
  | a :: as, b :: bs, n, line =>
    if a = b then firstDifference as bs (n + 1) (if a = '\n' then line + 1 else line)
    else (n, line, a)
  | _, _, n, line => (n, line, '\x00')

def cmp : Program := .troubled 2 <| .withOptions
    [flag 's' "silent", ⟨none, "quiet", .none⟩, flag 'b' "print-bytes", flag 'l' "verbose"]
    fun arguments => do
  let silent := arguments.has "s" || arguments.has "quiet"
  match arguments.operands with
  | [] =>
    Desk.complain "missing operand after 'cmp'"
    Desk.complain "Try 'cmp --help' for more information."
  | first :: more =>
    let second := more.headD "-"
    match ← Desk.content first, ← Desk.content second with
    | .unopened cause, _ | .unread cause, _ =>
      if silent then Desk.setStatus 2 else Desk.complain (first ++ ": " ++ cause.reason)
    | _, .unopened cause | _, .unread cause =>
      if silent then Desk.setStatus 2 else Desk.complain (second ++ ": " ++ cause.reason)
    | .text a, .text b =>
      if a = b then pure ()
      else
        Desk.setStatus 1
        let (n, line, _) := firstDifference a.toList b.toList 1 1
        let shorter := if a.length < b.length then first else second
        if silent then pure ()
        else if min a.length b.length < n then
          let line := if (a.toList.take (n - 1)).getLast? = some '\n' then line - 1 else line
          Desk.note ("cmp: EOF on " ++ shorter ++ (if n = 1 then " which is empty"
            else " after byte " ++ toString (n - 1) ++
              (if (a.toList.take (n - 1)).getLast? = some '\n' then ", line " else ", in line ")
              ++ toString line))
        else
          Desk.print (first ++ " " ++ second ++ " differ: char " ++ toString n ++ ", line "
            ++ toString line ++ "\n")

def truncate : Program := .withOptions
    [flag 'c' "no-create", needing 's' "size", needing 'r' "reference", flag 'o' "io-blocks"]
    fun arguments => do
  match arguments.value? "s" with
  | none => Desk.misuse "you must specify either '--size' or '--reference'"
  | some size =>
    if arguments.operands.isEmpty then Desk.misuse "missing file operand"
    else if (sizeOf? count? size 1).isNone then
      Desk.complain ("Invalid number: " ++ Desk.quoted size)
    else
      arguments.operands.forM fun path => do
        let old := match ← Desk.content path with
          | .text text => text
          | _ => ""
        if arguments.has "c" && !(← Desk.find path).isOk then pure ()
        else
          let size := (sizeOf? count? size old.length).getD 0
          let text := String.ofList (old.toList.take size
            ++ List.replicate (size - old.length) '\x00')
          (← Desk.store path text false).forM fun cause =>
            cannot ("open " ++ Desk.quoted path ++ " for writing") cause

def stat : Program := .withOptions
    [needing 'c' "format", flag 'L' "dereference", flag 't' "terse", flag 'f' "file-system",
      ⟨none, "printf", .required⟩] fun arguments => do
  if arguments.operands.isEmpty then Desk.misuse "missing operand"
  else
    arguments.operands.forM fun path => do
      match ← Desk.find path with
      | .error cause => cannot ("statx " ++ Desk.quoted path) cause
      | .ok (_, entry) =>
        let (size, kind) : Nat × String := match entry with
          | .directory => (4096, "directory")
          | .file content _ =>
            (content.size, if content.size = 0 then "regular empty file" else "regular file")
          | .device _ => (0, "character special file")
          | .program _ => (0, "regular file")
        let rec fill : List Char → String
          | '%' :: 's' :: rest => toString size ++ fill rest
          | '%' :: 'n' :: rest => path ++ fill rest
          | '%' :: 'F' :: rest => kind ++ fill rest
          | '%' :: 'U' :: rest | '%' :: 'G' :: rest => "root" ++ fill rest
          | '%' :: 'u' :: rest | '%' :: 'g' :: rest => "0" ++ fill rest
          | '%' :: '%' :: rest => "%" ++ fill rest
          | c :: rest => String.singleton c ++ fill rest
          | [] => ""
        match arguments.value? "c" with
        | some format => Desk.print (fill format.toList ++ "\n")
        | none => Desk.print ("  File: " ++ path ++ "\n")

end TraceWeave.Shell.Program
