import TraceWeave.Files.Tree
import TraceWeave.Shell.Raw

/-! Open streams and the descriptors that a process knows them by.

A stream is open once and may have many descriptors, which share its position. A pipe holds what
was written to it; reading takes it from the start. -/

namespace TraceWeave.Shell

inductive Stream where
  | device (device : Device)
  | file (place : Place) (position : Nat) (appends : Bool)
  | pipe (content : ByteArray) (position : Nat)

/-- What processes share: the files and all streams that were ever opened. -/
structure System where
  files : Files
  streams : Array Stream

abbrev Descriptors := List (Nat × Nat)

namespace Descriptors

def stream? (descriptors : Descriptors) (number : Nat) : Option Nat := descriptors.lookup number

def without (descriptors : Descriptors) (number : Nat) : Descriptors :=
  descriptors.filter (·.1 ≠ number)

def set (descriptors : Descriptors) (number stream : Nat) : Descriptors :=
  (number, stream) :: descriptors.without number

end Descriptors

inductive OpenMode where
  | read
  /-- Empties the file first. -/
  | write
  | append
  | update
  deriving DecidableEq

namespace System

def add (system : System) (stream : Stream) : Nat × System :=
  (system.streams.size, { system with streams := system.streams.push stream })

def fileContent (system : System) (place : Place) : ByteArray :=
  match system.files.entry? place with
  | some (.file content _) => content
  | _ => ByteArray.empty

/-- Why a stream cannot be read, if so. -/
def unreadable? (system : System) (stream : Nat) : Option Cause :=
  match system.streams[stream]? with
  | some (.file place _ _) =>
    match system.files.entry? place with
    | some .directory => some .isDirectory
    | _ => none
  | none => some .badDescriptor
  | _ => none

/-- As many bytes as are taken of what has no end. -/
def endless : Nat := 1048576

/-- The content of a stream from its position on, of which so many bytes will do. -/
def restUpTo (system : System) (stream enough : Nat) : ByteArray :=
  match system.streams[stream]? with
  | some (.file place position _) =>
    let content := system.fileContent place
    content.extract position content.size
  | some (.pipe content position) => content.extract position content.size
  | some (.device .zero) => ⟨Array.replicate (min enough endless) 0⟩
  | _ => ByteArray.empty

def rest (system : System) (stream : Nat) : ByteArray := system.restUpTo stream endless

def advance (system : System) (stream count : Nat) : System :=
  let moved := match system.streams[stream]? with
    | some (.file place position appends) => some (Stream.file place (position + count) appends)
    | some (.pipe content position) => some (Stream.pipe content (position + count))
    | _ => none
  match moved with
  | some moved => { system with streams := system.streams.setIfInBounds stream moved }
  | none => system

def retreat (system : System) (stream count : Nat) : System :=
  match system.streams[stream]? with
  | some (.file place position appends) =>
    let moved := Stream.file place (position - count) appends
    { system with streams := system.streams.setIfInBounds stream moved }
  | _ => system

def isSeekable (system : System) (stream : Nat) : Bool :=
  match system.streams[stream]? with
  | some (.file ..) => true
  | _ => false

def overwrite (old : ByteArray) (position : Nat) (bytes : ByteArray) : ByteArray :=
  let padding : ByteArray := ⟨Array.replicate (position - old.size) 0⟩
  let before := old.extract 0 position ++ padding
  before ++ bytes ++ old.extract (position + bytes.size) old.size

def write (system : System) (stream : Nat) (bytes : ByteArray) : Except Cause System :=
  match system.streams[stream]? with
  | none => .error .badDescriptor
  | some (.device .full) => if bytes.isEmpty then .ok system else .error .noSpace
  | some (.device _) => .ok system
  | some (.pipe content position) =>
    .ok { system with
      streams := system.streams.setIfInBounds stream (.pipe (content ++ bytes) position) }
  | some (.file place position appends) =>
    match system.files.entry? place with
    | some (.file content executable) =>
      let start := if appends then content.size else position
      let files := system.files.put place (.file (overwrite content start bytes) executable)
      let moved := Stream.file place (start + bytes.size) appends
      .ok { files, streams := system.streams.setIfInBounds stream moved }
    | _ => .ok system

/-- Opens a path. The standard streams of a process are open already. -/
def openPath (system : System) (descriptors : Descriptors) (path : String) (mode : OpenMode) :
    Except Cause (Nat × System) := do
  let standard (number : Nat) : Except Cause (Nat × System) :=
    match descriptors.stream? number with
    | some stream => .ok (stream, system)
    | none => .error .noEntry
  let device (device : Device) : Except Cause (Nat × System) :=
    match device with
    | .input => standard 0
    | .output => standard 1
    | .errors => standard 2
    | device => .ok (system.add (.device device))
  match mode with
  | .read =>
    match ← system.files.find path with
    | (_, .device found) => device found
    | (place, _) => .ok (system.add (.file place 0 false))
  | mode =>
    let appends := mode == .append
    let (place, entry?) ← system.files.writable path
    match entry? with
    | some (.device found) => device found
    | some (.file content executable) =>
      let kept := if mode = .write then ByteArray.empty else content
      let files := system.files.put place (.file kept executable)
      .ok ({ system with files }.add (.file place 0 appends))
    | _ =>
      let files := system.files.put place (.file ByteArray.empty false)
      .ok ({ system with files }.add (.file place 0 appends))

end System

end TraceWeave.Shell
