import Std.Data.ExtTreeMap
import TraceWeave.Files.Path

/-! A tree of files.

Every place is a list of names from the root; the root itself is the empty list and always a
directory. Walking a path asks at every name whether what was reached so far is a directory. -/

namespace TraceWeave

inductive Device where
  | null
  | zero
  /-- Takes nothing. -/
  | full
  /-- The standard streams of whoever opens them. -/
  | input
  | output
  | errors
  deriving DecidableEq

inductive Entry where
  | directory
  | file (content : ByteArray) (executable : Bool)
  | device (device : Device)
  /-- A command that comes with the system. -/
  | program (name : String)

abbrev Place := List String

structure Files where
  entries : Std.ExtTreeMap Place Entry
  /-- Where relative paths start. -/
  workingDirectory : Place

namespace Files

def entry? (files : Files) (place : Place) : Option Entry :=
  if place.isEmpty then some .directory else files.entries[place]?

def put (files : Files) (place : Place) (entry : Entry) : Files :=
  { files with entries := files.entries.insert place entry }

/-- Whether names can be looked up in what stands at a place. -/
def enter (files : Files) (place : Place) : Except Cause Unit :=
  match files.entry? place with
  | none => .error .noEntry
  | some .directory => .ok ()
  | some _ => .error .notDirectory

/-- The place that some names lead to. The last one need not exist. -/
def walk (files : Files) (place : Place) : List String → Except Cause Place
  | [] => .ok place
  | name :: names => do
    files.enter place
    if name = "." then files.walk place names
    else if name = ".." then files.walk place.dropLast names
    else if Address.maxName < name.utf8ByteSize then .error .nameTooLong
    else files.walk (place ++ [name]) names

def start (files : Files) (address : Address) : Place :=
  if address.absolute then [] else files.workingDirectory

def find (files : Files) (path : String) : Except Cause (Place × Entry) := do
  let address ← Address.ofPath path
  let place ← files.walk (files.start address) address.names
  match files.entry? place with
  | none => .error .noEntry
  | some .directory => .ok (place, .directory)
  | some entry => if address.slash then .error .notDirectory else .ok (place, entry)

/-- The directory and the last name of a path, for creating something there. There is no such
name in a path to the root or one that ends in a dot or two. -/
def target (files : Files) (address : Address) : Except Cause (Place × Option String) := do
  let directory ← files.walk (files.start address) address.names.dropLast
  files.enter directory
  match address.names.getLast? with
  | none => .ok (directory, none)
  | some name => .ok (directory, if name = "." ∨ name = ".." then none else some name)

def newName (name : String) : Except Cause Unit :=
  if Address.maxName < name.utf8ByteSize then .error .nameTooLong else .ok ()

/-- The place where a path can be opened for writing, and what is there. -/
def writable (files : Files) (path : String) : Except Cause (Place × Option Entry) := do
  let address ← Address.ofPath path
  let (directory, name?) ← files.target address
  match name? with
  | none => .error .isDirectory
  | some name =>
    if address.slash then .error .isDirectory
    else
      newName name
      let place := directory ++ [name]
      match files.entry? place with
      | some .directory => .error .isDirectory
      | some (.program _) => .error .denied
      | entry? => .ok (place, entry?)

/-- Replaces the content of a file, which is created where there is none. A device takes it,
unless it is full. -/
def write (files : Files) (path : String) (content : ByteArray) (executable : Bool) :
    Except Cause Files := do
  let (place, entry?) ← files.writable path
  match entry? with
  | some (.device .full) => if content.isEmpty then .ok files else .error .noSpace
  | some (.device _) => .ok files
  | some (.file _ old) => .ok (files.put place (.file content old))
  | _ => .ok (files.put place (.file content executable))

/-- The content of a file. A device has none here. -/
def read (files : Files) (path : String) : Except Cause ByteArray := do
  match ← files.find path with
  | (_, .directory) => .error .isDirectory
  | (_, .file content _) => .ok content
  | _ => .ok ByteArray.empty

def isDirectory (files : Files) (path : String) : Bool :=
  match files.find path with
  | .ok (_, .directory) => true
  | _ => false

def hasContent (files : Files) (path : String) : Bool :=
  match files.find path with
  | .ok (_, .file content _) => content.size != 0
  | _ => false

def makeDirectory (files : Files) (path : String) : Except Cause Files := do
  let address ← Address.ofPath path
  let (directory, name?) ← files.target address
  match name? with
  | none => .error .exists
  | some name =>
    newName name
    let place := directory ++ [name]
    match files.entry? place with
    | some _ => .error .exists
    | none => .ok (files.put place .directory)

def remove (files : Files) (path : String) : Except Cause Files := do
  match ← files.find path with
  | (_, .directory) => .error .isDirectory
  | (place, _) => .ok { files with entries := files.entries.erase place }

/-- Replaces what `output` holds by what `input` holds. The input is opened first and read last,
so a file copied onto itself is empty afterwards. -/
def copy (files : Files) (input output : String) : Except Cause Files := do
  match ← files.find input with
  | (source, .file _ executable) =>
    let files ← files.write output ByteArray.empty executable
    match files.entry? source with
    | some (.file content _) => files.write output content executable
    | _ => .ok files
  | _ => .error (.other "the source path is neither a regular file nor a symlink to a regular file")

/-- Two entries hold the same, whether or not they can be run. -/
def sameContent : Option Entry → Entry → Bool
  | some (.file a _), .file b _ => a == b
  | some .directory, .directory => true
  | some (.device a), .device b => a = b
  | some (.program a), .program b => a = b
  | _, _ => false

/-- What is new or changed below a directory, by the names that lead there. -/
def changes (directory : Place) (before after : Files) : List (Place × Entry) :=
  after.entries.toList.filterMap fun (place, entry) =>
    if directory.isPrefixOf place ∧ place ≠ directory
        ∧ !sameContent (before.entry? place) entry then
      some (place.drop directory.length, entry)
    else none

end Files

end TraceWeave
