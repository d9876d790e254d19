import TraceWeave.Shell.Program.Options

/-! Programs that copy, move, make and take away files and directories. -/

namespace TraceWeave.Shell.Program

/-! ### Operands -/

def missing (operands : List String) (what : String) (more : String) : StateM Desk Unit :=
  match operands.getLast? with
  | none => Desk.misuse ("missing " ++ what)
  | some last => Desk.misuse ("missing " ++ more ++ " after " ++ Desk.quoted last)

/-- The last name of a path; slashes behind it are left out. -/
def lastName (path : String) : String :=
  let bare := path.toList.reverse.dropWhile (· = '/')
  String.ofList (bare.takeWhile (· ≠ '/')).reverse

def below (directory name : String) : String :=
  if directory.endsWith "/" then directory ++ name else directory ++ "/" ++ name

def cannot (what : String) (cause : Cause) : StateM Desk Unit :=
  Desk.complain ("cannot " ++ what ++ ": " ++ cause.reason)

/-- The paths that operands are brought to: each with the one that it goes to. The last operand,
or the value of an option, is a directory or, where there is only one more, the new path. -/
def pairings (arguments : Arguments) (more : String) :
    StateM Desk (Option (List (String × String))) := do
  let into (sources : List String) (directory : String) :=
    sources.map fun source => (source, below directory (lastName source))
  match arguments.value? "t" with
  | some directory =>
    if arguments.operands.isEmpty then
      Desk.misuse "missing file operand"
      pure none
    else if ← Desk.isDirectory directory then pure (some (into arguments.operands directory))
    else
      let cause := match ← Desk.find directory with
        | .ok _ => Cause.notDirectory
        | .error cause => cause
      Desk.complain ("target directory " ++ Desk.quoted directory ++ ": " ++ cause.reason)
      pure none
  | none =>
    match arguments.operands.reverse with
    | [] | [_] =>
      missing arguments.operands "file operand" more
      pure none
    | [target, source] =>
      if !arguments.has "T" && (← Desk.isDirectory target) then
        pure (some (into [source] target))
      else pure (some [(source, target)])
    | target :: sources =>
      if arguments.has "T" then
        let extra := (arguments.operands[2]?).getD ""
        Desk.misuse ("extra operand " ++ Desk.quoted extra)
        pure none
      else if ← Desk.isDirectory target then pure (some (into sources.reverse target))
      else
        let cause := match ← Desk.find target with
          | .ok _ => Cause.notDirectory
          | .error cause => cause
        Desk.complain ("target " ++ Desk.quoted target ++ ": " ++ cause.reason)
        pure none

/-- Options of programs that bring files to other paths. -/
def placingForms : List OptionForm :=
  [flag 'f' "force", flag 'i' "interactive", flag 'n' "no-clobber", flag 'u' "update",
    flag 'v' "verbose", flag 'T' "no-target-directory", needing 't' "target-directory",
    flag 'b' "backup", ⟨none, "strip-trailing-slashes", .none⟩]

/-! ### Copying -/

/-- Why a file could not be made at a path: a path with a slash at its end is no directory there. -/
def makingCause (path : String) (cause : Cause) : Cause :=
  if cause = .isDirectory ∧ path.endsWith "/" then .notDirectory else cause

def copyFile (arguments : Arguments) (source target : String) (place : Place) (entry : Entry) :
    StateM Desk Unit := do
  let found := ← Desk.find target
  match found with
  | .ok (_, .directory) =>
    Desk.complain ("cannot overwrite directory " ++ Desk.quoted target ++ " with non-directory")
  | .ok (other, _) =>
    if other = place then
      Desk.complain (Desk.quoted source ++ " and " ++ Desk.quoted target ++ " are the same file")
    else if arguments.has "n" then pure ()
    else copy false
  | .error .notDirectory =>
    cannot ("stat " ++ Desk.quoted target) .notDirectory
  | .error _ => copy true
where
  copy (isNew : Bool) : StateM Desk Unit := do
    match ← Desk.content source with
    | .unopened cause =>
      Desk.complain ("cannot open " ++ Desk.quoted source ++ " for reading: " ++ cause.reason)
    | .unread cause =>
      Desk.complain ("error reading " ++ Desk.quoted source ++ ": " ++ cause.reason)
    | .text text =>
      match ← Desk.store target text false with
      | some .noSpace =>
        Desk.complain ("error writing " ++ Desk.quoted target ++ ": " ++ Cause.noSpace.reason)
      | some cause =>
        cannot ("create regular file " ++ Desk.quoted target) (makingCause target cause)
      | none =>
        if isNew then
          match entry with
          | .file _ true =>
            let _ ← Desk.change (·.setExecutable (Raw.text target) true)
          | .program name =>
            let _ ← Desk.change fun files => do
              let (place, _) ← files.find (Raw.text target)
              .ok (files.put place (.program name))
          | _ => pure ()
        if arguments.has "v" then
          Desk.print (Desk.quoted source ++ " -> " ++ Desk.quoted target ++ "\n")

/-- Makes the directory that another one is to be copied to, unless it is there. -/
def makeTarget (arguments : Arguments) (source target : String) : StateM Desk Bool := do
  match ← Desk.find target with
  | .ok (_, .directory) => pure true
  | .ok _ =>
    Desk.complain ("cannot overwrite non-directory " ++ Desk.quoted target ++ " with directory "
      ++ Desk.quoted source)
    pure false
  | .error _ =>
    match ← Desk.change (·.makeDirectory (Raw.text target)) with
    | some cause =>
      cannot ("create directory " ++ Desk.quoted target) cause
      pure false
    | none =>
      if arguments.has "v" then
        Desk.print (Desk.quoted source ++ " -> " ++ Desk.quoted target ++ "\n")
      pure true

def copyTree (arguments : Arguments) (source target : String) (place : Place) :
    StateM Desk Unit := do
  let files := (← get).system.files
  let below' := files.entries.toList.filter fun (other, _) => Files.isBelow place other
  if ← makeTarget arguments source target then
    let inside := match ← Desk.find target with
      | .ok (other, _) => place.isPrefixOf other
      | .error _ => false
    if inside then
      Desk.complain ("cannot copy a directory, " ++ Desk.quoted source ++ ", into itself, "
        ++ Desk.quoted target)
    below'.forM fun (other, entry) => do
      let rest := "/".intercalate ((other.drop place.length).map Raw.ofText)
      match entry with
      | .directory =>
        let _ ← makeTarget arguments (below source rest) (below target rest)
      | _ => copyFile arguments (below source rest) (below target rest) other entry

def cp : Program := .withOptions
    (placingForms ++ [flag 'r' "recursive", flag 'R' "", flag 'a' "archive", flag 'p' "preserve",
      flag 'd' "", flag 'L' "dereference", flag 'P' "no-dereference", flag 'H' "", flag 'l' "link",
      flag 's' "symbolic-link", flag 'x' "one-file-system", flag 'Z' ""]) fun arguments => do
  match ← pairings arguments "destination file operand" with
  | none => pure ()
  | some pairs =>
    let deep := ["r", "R", "a"].any arguments.has
    pairs.forM fun (source, target) => do
      match ← Desk.find source with
      | .error cause => cannot ("stat " ++ Desk.quoted source) cause
      | .ok (place, .directory) =>
        if deep then copyTree arguments source target place
        else Desk.complain ("-r not specified; omitting directory " ++ Desk.quoted source)
      | .ok (place, entry) => copyFile arguments source target place entry

/-! ### Moving -/

def moveOne (arguments : Arguments) (source target : String) : StateM Desk Unit := do
  match ← Desk.find source with
  | .error cause => cannot ("stat " ++ Desk.quoted source) cause
  | .ok (place, entry) =>
    let found ← Desk.find target
    let isSame := match found with
      | .ok (other, _) => place == other
      | .error _ => false
    let isDirectory := match entry with
      | .directory => true
      | _ => false
    let name := lastName source
    let renamed (files : Files) : Except Cause Files :=
      if name = "." ∨ name = ".." then .error .busy
      else files.rename (Raw.text source) (Raw.text target)
    let move : StateM Desk Unit := do
      match ← Desk.change renamed with
      | none =>
        if arguments.has "v" then
          Desk.print ("renamed " ++ Desk.quoted source ++ " -> " ++ Desk.quoted target ++ "\n")
      | some .invalid =>
        Desk.complain ("cannot move " ++ Desk.quoted source ++ " to a subdirectory of itself, "
          ++ Desk.quoted target)
      | some .notEmpty =>
        Desk.complain ("cannot overwrite " ++ Desk.quoted target ++ ": " ++ Cause.notEmpty.reason)
      | some cause => cannot ("move " ++ Desk.quoted source ++ " to " ++ Desk.quoted target) cause
    match found with
    | .ok (_, .directory) =>
      if isSame then
        Desk.complain (Desk.quoted source ++ " and " ++ Desk.quoted target ++ " are the same file")
      else if isDirectory then move
      else
        Desk.complain ("cannot overwrite directory " ++ Desk.quoted target
          ++ " with non-directory")
    | .ok _ =>
      if isSame then
        Desk.complain (Desk.quoted source ++ " and " ++ Desk.quoted target ++ " are the same file")
      else if arguments.has "n" then Desk.complain ("not replacing " ++ Desk.quoted target)
      else if isDirectory then
        Desk.complain ("cannot overwrite non-directory " ++ Desk.quoted target
          ++ " with directory " ++ Desk.quoted source)
      else move
    | .error .notDirectory => cannot ("stat " ++ Desk.quoted target) .notDirectory
    | .error _ => move

def mv : Program := .withOptions placingForms fun arguments => do
  match ← pairings arguments "destination file operand" with
  | none => pure ()
  | some pairs => pairs.forM fun (source, target) => moveOne arguments source target

/-! ### Links -/

/-- Gives a file another name. What is behind the two names is one file only until one of them is
written to. -/
def linkOne (arguments : Arguments) (source target : String) : StateM Desk Unit := do
  let symbolic := arguments.has "s"
  let (kind, arrow) := if symbolic then ("symbolic link ", " -> ") else ("hard link ", " => ")
  let origin := if symbolic ∧ !source.startsWith "/" ∧ target.contains '/' then
      below (String.ofList (target.toList.reverse.dropWhile (· ≠ '/')).reverse) source
    else source
  match ← Desk.find origin with
  | .error cause =>
    if symbolic then pure ()
    else Desk.complain ("failed to access " ++ Desk.quoted source ++ ": " ++ cause.reason)
  | .ok (_, .directory) =>
    if symbolic then pure ()
    else Desk.complain (source ++ ": hard link not allowed for directory")
  | .ok (_, entry) =>
    let refuse (cause : Cause) : StateM Desk Unit :=
      let what := if cause = .exists then Desk.quoted target
        else Desk.quoted target ++ arrow ++ Desk.quoted source
      Desk.complain ("failed to create " ++ kind ++ what ++ ": " ++ cause.reason)
    let taken := (← Desk.find target).isOk
    if taken && !arguments.has "f" then refuse .exists
    else
      let put ← Desk.change fun files => do
        let (place, _) ← files.writable (Raw.text target)
        .ok (files.put place entry)
      match put with
      | some cause => refuse cause
      | none =>
        if arguments.has "v" then
          Desk.print (Desk.quoted target ++ arrow ++ Desk.quoted source ++ "\n")

def ln : Program := .withOptions
    (placingForms ++ [flag 's' "symbolic", flag 'r' "relative", flag 'L' "logical",
      flag 'P' "physical"]) fun arguments => do
  let arguments := match arguments.operands with
    | [source] => { arguments with operands := [source, "."] }
    | _ => arguments
  match ← pairings arguments "file operand" with
  | none => pure ()
  | some pairs => pairs.forM fun (source, target) => linkOne arguments source target

def link : Program := .withOptions [] fun arguments => do
  match arguments.operands with
  | [source, target] =>
    let put ← Desk.change fun files => do
      let (_, entry) ← files.find (Raw.text source)
      let (place, old?) ← files.writable (Raw.text target)
      if old?.isSome then .error .exists else .ok (files.put place entry)
    put.forM fun cause => cannot
      ("create link " ++ Desk.quoted target ++ " to " ++ Desk.quoted source) cause
  | _ :: _ :: extra :: _ => Desk.misuse ("extra operand " ++ Desk.quoted extra)
  | operands => missing operands "operand" "operand"

/-! ### Taking away -/

def removeTree (arguments : Arguments) (path : String) (place : Place) : StateM Desk Unit := do
  let files := (← get).system.files
  (files.within place).forM fun (other, entry) => do
    let names := (other.drop place.length).map Raw.ofText
    let shown := names.foldl below path
    let _ ← Desk.change fun files => .ok (files.erase other)
    if arguments.has "v" then
      match entry with
      | .directory => Desk.print ("removed directory " ++ Desk.quoted shown ++ "\n")
      | _ => Desk.print ("removed " ++ Desk.quoted shown ++ "\n")

def removeOne (arguments : Arguments) (path : String) : StateM Desk Unit := do
  let deep := arguments.has "r" || arguments.has "R"
  let name := lastName path
  match ← Desk.find path with
  | .error cause =>
    if arguments.has "f" ∧ (cause = .noEntry ∨ cause = .notDirectory) then pure ()
    else cannot ("remove " ++ Desk.quoted path) cause
  | .ok (place, .directory) =>
    if deep then
      if name = "." ∨ name = ".." then
        Desk.complain ("refusing to remove '.' or '..' directory: skipping " ++ Desk.quoted path)
      else if place.isEmpty then
        Desk.complain "it is dangerous to operate recursively on '/'"
        Desk.complain "use --no-preserve-root to override this failsafe"
      else removeTree arguments path place
    else if arguments.has "d" then
      match ← Desk.change (·.removeDirectory (Raw.text path)) with
      | some cause => cannot ("remove " ++ Desk.quoted path) cause
      | none =>
        if arguments.has "v" then
          Desk.print ("removed directory " ++ Desk.quoted path ++ "\n")
    else cannot ("remove " ++ Desk.quoted path) .isDirectory
  | .ok (place, _) =>
    let _ ← Desk.change fun files => .ok (files.erase place)
    if arguments.has "v" then Desk.print ("removed " ++ Desk.quoted path ++ "\n")

def rm : Program := .withOptions
    [flag 'f' "force", flag 'r' "recursive", flag 'R' "", flag 'd' "dir", flag 'v' "verbose",
      flag 'i' "", flag 'I' "", ⟨none, "no-preserve-root", .none⟩,
      ⟨none, "preserve-root", .optional⟩, ⟨none, "interactive", .optional⟩] fun arguments => do
  if arguments.operands.isEmpty then
    if arguments.has "f" then pure () else Desk.misuse "missing operand"
  else arguments.operands.forM (removeOne arguments)

/-- The path of the directory that a path is in, as far as the path says. -/
def upper? (path : String) : Option String :=
  let bare := path.toList.reverse.dropWhile (· = '/')
  let rest := bare.dropWhile (· ≠ '/')
  let upper := rest.dropWhile (· = '/')
  if upper.isEmpty then none else some (String.ofList upper.reverse)

/-- Takes directories away one after the other, from a path upwards where that is asked for. -/
def removeUpwards (arguments : Arguments) : Nat → Bool → String → StateM Desk Unit
  | 0, _, _ => pure ()
  | fuel + 1, first, path => do
    if arguments.has "v" then
      Desk.print ("rmdir: removing directory, " ++ Desk.quoted path ++ "\n")
    match ← Desk.change (·.removeDirectory (Raw.text path)) with
    | some cause =>
      if cause = .notEmpty ∧ arguments.has "ignore-fail-on-non-empty" then pure ()
      else
        Desk.complain ("failed to remove " ++ (if first then "" else "directory ")
          ++ Desk.quoted path ++ ": " ++ cause.reason)
    | none =>
      if arguments.has "p" then (upper? path).forM (removeUpwards arguments fuel false)

def rmdir : Program := .withOptions
    [flag 'p' "parents", flag 'v' "verbose", ⟨none, "ignore-fail-on-non-empty", .none⟩]
    fun arguments => do
  if arguments.operands.isEmpty then Desk.misuse "missing operand"
  else arguments.operands.forM fun path => removeUpwards arguments path.length true path

def unlink : Program := .withOptions [] fun arguments => do
  match arguments.operands with
  | [] => Desk.misuse "missing operand"
  | [path] =>
    (← Desk.change (·.remove (Raw.text path))).forM fun cause =>
      cannot ("unlink " ++ Desk.quoted path) cause
  | _ :: extra :: _ => Desk.misuse ("extra operand " ++ Desk.quoted extra)

/-! ### Making -/

def isMode (text : String) : Bool :=
  let clause (text : List Char) : Bool :=
    let rest := text.dropWhile "ugoa".toList.contains
    match rest with
    | sign :: _ => "+-=".toList.contains sign && rest.all "+-=rwxXstugo".toList.contains
    | [] => false
  let digits := text.toList
  (!digits.isEmpty && digits.all (fun c => '0' ≤ c && c ≤ '7') && digits.length ≤ 5)
    || ((text.splitOn ",").all fun part => clause part.toList)

/-- The directories on the way to a path, the path itself last. -/
def steps (path : String) : List String :=
  let names := path.splitOn "/"
  (List.range names.length).filterMap fun n =>
    if (names[n]?).all (·.isEmpty) then none else some ("/".intercalate (names.take (n + 1)))

def makeOne (arguments : Arguments) (path : String) : StateM Desk Unit := do
  let make (step : String) : StateM Desk (Option Cause) := do
    let problem? ← Desk.change (·.makeDirectory (Raw.text step))
    if problem?.isNone && arguments.has "v" then
      Desk.print ("mkdir: created directory " ++ Desk.quoted step ++ "\n")
    pure problem?
  let refuse (step : String) (cause : Cause) : StateM Desk Unit :=
    cannot ("create directory " ++ Desk.quoted step) cause
  if arguments.has "p" ∧ !path.isEmpty then
    let rec climb : List String → StateM Desk Unit
      | [] => pure ()
      | step :: more => do
        match ← make step with
        | none => climb more
        | some .exists =>
          if ← Desk.isDirectory step then climb more
          else refuse step (if more.isEmpty then .exists else .notDirectory)
        | some cause => refuse step cause
    climb (steps path)
  else (← make path).forM (refuse path)

def mkdir : Program := .withOptions
    [flag 'p' "parents", flag 'v' "verbose", needing 'm' "mode", flag 'Z' ""] fun arguments => do
  match arguments.operands, arguments.value? "m" with
  | [], _ => Desk.misuse "missing operand"
  | paths, some mode =>
    if isMode mode then paths.forM (makeOne arguments)
    else Desk.complain ("invalid mode " ++ Desk.quoted mode)
  | paths, none => paths.forM (makeOne arguments)

def touch : Program := .withOptions
    [flag 'a' "", flag 'm' "", flag 'c' "no-create", flag 'f' "", flag 'h' "no-dereference",
      needing 'd' "date", needing 't' "", needing 'r' "reference", ⟨none, "time", .required⟩]
    fun arguments => do
  if arguments.operands.isEmpty then Desk.misuse "missing file operand"
  else
    arguments.operands.forM fun path => do
      match ← Desk.find path with
      | .ok _ => pure ()
      | .error cause =>
        if path.endsWith "/" then
          if arguments.has "c" then pure ()
          else Desk.complain ("setting times of " ++ Desk.quoted path ++ ": " ++ cause.reason)
        else if arguments.has "c" then pure ()
        else
          (← Desk.store path "" false).forM fun cause => cannot ("touch " ++ Desk.quoted path) cause

/-! ### Permissions and sizes -/

/-- Whether a mode lets a file be run by its owner, given whether it could be before. -/
def runnable (mode : String) (before : Bool) : Bool :=
  let chars := mode.toList
  if chars.all Char.isDigit then
    let owner := (chars.reverse[2]?).getD '0'
    (owner.toNat - '0'.toNat) % 2 == 1
  else
    (mode.splitOn ",").foldl (fun before part =>
      let chars := part.toList
      let who := chars.takeWhile "ugoa".toList.contains
      let rest := chars.drop who.length
      let owner := who.isEmpty || who.contains 'u' || who.contains 'a'
      let grants := rest.contains 'x' || (rest.contains 'X' && before)
      match owner, rest.head? with
      | true, some '+' => before || grants
      | true, some '-' => before && !grants
      | true, some '=' => grants
      | _, _ => before) before

def chmod : Program := fun given =>
  let isPlain (argument : String) : Bool :=
    argument.startsWith "-" && isMode argument && argument.length ≠ 1
  let (modes, given) := (given.filter isPlain, given.filter (!isPlain ·))
  Program.withOptions
    [flag 'R' "recursive", flag 'v' "verbose", flag 'c' "changes", flag 'f' "silent",
      ⟨none, "quiet", .none⟩, ⟨none, "reference", .required⟩] (fun arguments => do
    match modes ++ arguments.operands with
    | [] => Desk.misuse "missing operand"
    | [mode] => Desk.misuse ("missing operand after " ++ Desk.quoted mode)
    | mode :: paths =>
      if !isMode mode then Desk.misuse ("invalid mode: " ++ Desk.quoted mode)
      else
        paths.forM fun path => do
          match ← Desk.find path with
          | .error cause =>
            if arguments.has "f" then Desk.setStatus 1
            else cannot ("access " ++ Desk.quoted path) cause
          | .ok (place, _) =>
            let files := (← get).system.files
            let places := if arguments.has "R" then (files.within place).map Prod.fst else [place]
            let _ ← Desk.change fun files => .ok (places.foldl (fun files place =>
              match files.entry? place with
              | some (.file content before) =>
                files.put place (.file content (runnable mode before))
              | _ => files) files)) given

def sizeOf? (count? : String → Option Nat) (text : String) (old : Nat) : Option Nat :=
  let rest := String.ofList (text.toList.drop 1)
  match text.toList.head? with
  | some '+' => (count? rest).map (old + ·)
  | some '-' => (count? rest).map (old - ·)
  | some '<' => (count? rest).map (min old)
  | some '>' => (count? rest).map (max old)
  | some '/' => (count? rest).map fun n => old / n * n
  | some '%' => (count? rest).map fun n => (old + n - 1) / n * n
  | _ => count? text

end TraceWeave.Shell.Program
