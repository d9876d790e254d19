import TraceWeave.Files.Change
import TraceWeave.Shell.Stream

/-! The desk of a program: what it can read, change and write while it runs.

Arguments and what is read and written are texts of bytes. A program that cannot write goes on and
says so at its end. -/

namespace TraceWeave.Shell

structure Desk where
  /-- The name by which the program was called. -/
  name : String
  system : System
  descriptors : Descriptors
  environment : List (String × String)
  /-- The status that the program will end with. -/
  status : Nat
  /-- The status of a program that something went wrong with. -/
  trouble : Nat
  /-- Why the output could not be written. -/
  unwritten? : Option Cause

abbrev Program := List String → StateM Desk Unit

namespace Desk

def setStatus (status : Nat) : StateM Desk Unit := modify fun desk => { desk with status }

def write (descriptor : Nat) (text : String) : StateM Desk (Option Cause) := do
  let desk ← get
  match desk.descriptors.stream? descriptor with
  | none => pure (some .badDescriptor)
  | some stream =>
    match desk.system.write stream (Raw.bytes text) with
    | .ok system =>
      set { desk with system }
      pure none
    | .error cause => pure (some cause)

def print (text : String) : StateM Desk Unit := do
  if text.isEmpty then pure ()
  else
    match ← write 1 text with
    | none => pure ()
    | some cause => modify fun desk => { desk with unwritten? := some cause }

def printChars (text : List Char) : StateM Desk Unit := print (String.ofList text)

def note (text : String) : StateM Desk Unit := do
  let _ ← write 2 (text ++ "\n")

def complain (text : String) : StateM Desk Unit := do
  let desk ← get
  note (desk.name ++ ": " ++ text)
  setStatus desk.trouble

def misuse (text : String) : StateM Desk Unit := do
  complain text
  let name := (← get).name
  note ("Try '" ++ name ++ " --help' for more information.")

def isPlainIn (c : Char) : Bool := 0x20 ≤ c.toNat && c.toNat < 0x7F

/-- A name between quotes. Characters that cannot be shown are written by their codes. -/
def quotedFrom : Nat → List Char → List Char
  | 0, _ | _, [] => []
  | fuel + 1, text =>
    let plain := text.takeWhile fun c => isPlainIn c && c ≠ '\''
    let rest := text.drop plain.length
    let shown := if plain.isEmpty then [] else '\'' :: plain ++ ['\'']
    match rest with
    | [] => shown
    | '\'' :: more => shown ++ '\\' :: '\'' :: quotedFrom fuel more
    | _ =>
      let coded := rest.takeWhile fun c => !isPlainIn c
      let code (c : Char) : List Char := match c with
        | '\n' => "\\n".toList
        | '\t' => "\\t".toList
        | '\x0d' => "\\r".toList
        | _ =>
          let digits := Nat.toDigits 8 c.toNat
          '\\' :: List.replicate (3 - digits.length) '0' ++ digits
      shown ++ "$'".toList ++ coded.flatMap code ++ '\'' :: quotedFrom fuel
        (rest.drop coded.length)

def quoted (text : String) : String :=
  let chars := text.toList
  if chars.contains '\'' ∧ chars.all fun c => isPlainIn c ∧ ¬ "\"\\$\x60!".toList.contains c then
    "\"" ++ text ++ "\""
  else
    let lead := if chars.head?.all isPlainIn then "" else "''"
    if chars.isEmpty then "''" else lead ++ String.ofList (quotedFrom (chars.length + 1) chars)

/-! ### Files -/

def find (path : String) : StateM Desk (Except Cause (Place × Entry)) := do
  return (← get).system.files.find (Raw.text path)

def isDirectory (path : String) : StateM Desk Bool := do
  return (← get).system.files.isDirectory (Raw.text path)

def change (action : Files → Except Cause Files) : StateM Desk (Option Cause) := do
  let desk ← get
  match action desk.system.files with
  | .ok files =>
    set { desk with system := { desk.system with files } }
    pure none
  | .error cause => pure (some cause)

/-- The rest of the input, which is used up by that. So many bytes of it will do. -/
def takeInputUpTo (enough : Nat) : StateM Desk (Except Cause String) := do
  let desk ← get
  match desk.descriptors.stream? 0 with
  | none => pure (.error .badDescriptor)
  | some stream =>
    match desk.system.unreadable? stream with
    | some cause => pure (.error cause)
    | none =>
      let bytes := desk.system.restUpTo stream enough
      set { desk with system := desk.system.advance stream bytes.size }
      pure (.ok (Raw.ofBytes bytes))

def takeInput : StateM Desk (Except Cause String) := takeInputUpTo System.endless

/-- Goes back in the input by some bytes that were read too many, where that can be done. -/
def giveBack (count : Nat) : StateM Desk Unit := do
  let desk ← get
  match desk.descriptors.stream? 0 with
  | some stream =>
    if desk.system.isSeekable stream then
      set { desk with system := desk.system.retreat stream count }
  | none => pure ()

/-- Why a path cannot be opened for reading, or the text to be read there. A directory can be
opened but not read. -/
inductive Content where
  | unopened (cause : Cause)
  | unread (cause : Cause)
  | text (text : String)

/-- The text at a path, of which so many bytes will do; a hyphen stands for the input. -/
def contentUpTo (enough : Nat) (path : String) : StateM Desk Content := do
  if path = "-" then
    match ← takeInputUpTo enough with
    | .ok text => pure (.text text)
    | .error cause => pure (.unread cause)
  else
    let desk ← get
    match desk.system.openPath desk.descriptors (Raw.text path) .read with
    | .error cause => pure (.unopened cause)
    | .ok (stream, system) =>
      match system.unreadable? stream with
      | some cause => pure (.unread cause)
      | none => pure (.text (Raw.ofBytes (system.restUpTo stream enough)))

def content : String → StateM Desk Content := contentUpTo System.endless

def store (path text : String) (appends : Bool) : StateM Desk (Option Cause) := do
  let desk ← get
  let mode := if appends then OpenMode.append else OpenMode.write
  match desk.system.openPath desk.descriptors (Raw.text path) mode with
  | .error cause => pure (some cause)
  | .ok (stream, system) =>
    match system.write stream (Raw.bytes text) with
    | .ok system =>
      set { desk with system }
      pure none
    | .error cause =>
      set { desk with system }
      pure (some cause)

end Desk

/-! ### Lines -/

def linesOf (ending : Char) : List Char → List (List Char)
  | [] => []
  | c :: rest =>
    if c = ending then [c] :: linesOf ending rest
    else
      match rest, linesOf ending rest with
      | [], _ | _, [] => [[c]]
      | _, line :: lines => (c :: line) :: lines

def bare (ending : Char) (line : List Char) : List Char :=
  if line.getLast? = some ending then line.dropLast else line

def bareLines (text : String) : List String :=
  (linesOf '\n' text.toList).map fun line => String.ofList (bare '\n' line)

end TraceWeave.Shell
