import TraceWeave.Files.Tree

/-! Listing directories, and taking away or moving what is in a tree of files. -/

namespace TraceWeave.Files

/-- Whether what stands at `place` is below a directory. -/
def isBelow (directory place : Place) : Bool :=
  directory.isPrefixOf place && directory.length < place.length

/-- The names in a directory, in the order of their code points. -/
def names (files : Files) (directory : Place) : List String :=
  (files.entries.toList.filterMap fun (place, _) =>
    if isBelow directory place ∧ place.length = directory.length + 1 then place.getLast? else none
  ).mergeSort fun a b => !decide (b < a)

/-- What is below a place, with the place itself, the deepest first. -/
def within (files : Files) (place : Place) : List (Place × Entry) :=
  (files.entries.toList.filter fun (other, _) => place.isPrefixOf other).mergeSort fun a b =>
    !decide (a.1.length < b.1.length)

def erase (files : Files) (place : Place) : Files :=
  { files with entries := files.entries.erase place }

/-- Takes a place away with all that is below it. -/
def eraseWithin (files : Files) (place : Place) : Files :=
  (files.within place).foldl (fun files (place, _) => files.erase place) files

/-- The last name of a path if it is a dot or two. -/
def dotName? (path : String) : Option String := do
  let address ← (Address.ofPath path).toOption
  let name ← address.names.getLast?
  if name = "." ∨ name = ".." then some name else none

def removeDirectory (files : Files) (path : String) : Except Cause Files := do
  match ← files.find path with
  | (place, .directory) =>
    if place.isEmpty then .error .busy
    else if dotName? path = some "." then .error .invalid
    else if (files.names place).isEmpty then .ok (files.erase place)
    else .error .notEmpty
  | _ => .error .notDirectory

/-- Moves what stands at a place to another one, with all that is below it. -/
def transplant (files : Files) (source target : Place) : Files :=
  let moved := files.within source
  let cleared := moved.foldl (fun files (place, _) => files.erase place) files
  moved.foldl (fun files (place, entry) =>
    files.put (target ++ place.drop source.length) entry) cleared

/-- Gives another name to what stands at a path. A file takes the place of a file, a directory
that of an empty directory. -/
def rename (files : Files) (source target : String) : Except Cause Files := do
  let (old, entry) ← files.find source
  let address ← Address.ofPath target
  let (directory, name?) ← files.target address
  match name? with
  | none => .error .busy
  | some name =>
    newName name
    let new := directory ++ [name]
    if old = new then .ok files
    else
      match entry, files.entry? new with
      | .directory, some .directory =>
        if !(files.names new).isEmpty then .error .notEmpty
        else if isBelow old new then .error .invalid
        else .ok (files.transplant old new)
      | .directory, some _ => .error .notDirectory
      | .directory, none =>
        if isBelow old new then .error .invalid else .ok (files.transplant old new)
      | _, some .directory => .error .isDirectory
      | _, _ => if address.slash then .error .notDirectory else .ok (files.transplant old new)

def setExecutable (files : Files) (path : String) (executable : Bool) : Except Cause Files := do
  match ← files.find path with
  | (place, .file content _) => .ok (files.put place (.file content executable))
  | _ => .ok files

end TraceWeave.Files
