import TraceWeave.CommandLine

/-! The program itself: it takes in the files of the working directory and those that are named,
makes the call and puts out what came of it. -/

namespace TraceWeave.Main

open IO

def put (files : Files) (place : Place) (entry : Entry) : Files :=
  let above := (List.range place.length).map fun n => (place.take n, Entry.directory)
  (above ++ [(place, entry)]).foldl
    (fun files (place, entry) => if place.isEmpty then files else files.put place entry) files

/-- A file with its content. One that asks for an interpreter counts as executable. -/
def load (files : Files) (path : String) (place : Place) : IO Files := do
  let content ← FS.readBinFile path
  pure (put files place (.file content (Shell.Shebang.read? content).isSome))

partial def loadBelow (files : Files) (path : String) (place : Place) : IO Files := do
  let mut files := put files place .directory
  let directory ← FS.realPath path
  for found in ← directory.readDir do
    let inner := path ++ "/" ++ found.fileName
    match (← found.path.metadata).type with
    | .dir => files ← loadBelow files inner (place ++ [found.fileName])
    | .file => files ← load files inner (place ++ [found.fileName])
    | _ => pure ()
  pure files

def places (path : String) : Place :=
  ((Path.pieces path.toList).filter (!·.isEmpty)).map String.ofList

def store (place : Place) (entry : Entry) : IO Unit := do
  let path := "/" ++ "/".intercalate place
  match entry with
  | .directory => FS.createDirAll path
  | .file content _ => FS.writeBinFile path content
  | _ => pure ()

def display (remark : Remark) : IO Unit := do
  match remark with
  | .plain text => eprint text
  | .log record => eprintln record.line

def loadAll (arguments : List String) : IO Files := do
  let working ← currentDir
  let home := places working.toString
  let mut files ← loadBelow { Files.system with workingDirectory := home } working.toString home
  for argument in arguments do
    if argument.startsWith "/" then
      try files ← load files argument (places argument) catch _ => pure ()
  pure files

end TraceWeave.Main

open TraceWeave in
def main (arguments : List String) : IO UInt32 := do
  let runs := (CommandLine.Given.ofArguments arguments).isOk
  let files ← if runs then Main.loadAll arguments else pure Files.system
  let result := CommandLine.call arguments (← IO.getEnv "RUST_LOG") files
  for (place, entry) in Files.changes [] files result.files do Main.store place entry
  IO.print result.stdout
  for remark in result.shown do Main.display remark
  if result.status = CommandLine.usageStatus then IO.eprintln ""
  pure result.status.toUInt32
