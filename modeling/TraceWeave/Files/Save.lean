import TraceWeave.Files.Tree

/-! Writing a document to a path whose directories may not exist yet. -/

namespace TraceWeave

inductive SaveError where
  | createDirectory (path : String) (cause : Cause)
  | write (path : String) (cause : Cause)
  deriving DecidableEq

inductive DocumentKind where
  | interchange
  | report
  deriving DecidableEq

def DocumentKind.name : DocumentKind → String
  | .interchange => "interchange document"
  | .report => "run report"

namespace SaveError

/-- What failed and why, the cause last. -/
def causes (kind : DocumentKind) : SaveError → List String
  | .createDirectory path cause => ["Failed to create directory: " ++ path, cause.message]
  | .write path cause => ["Failed to write " ++ kind.name ++ ": " ++ path, cause.message]

def message (kind : DocumentKind) (error : SaveError) : String :=
  ": ".intercalate (error.causes kind)

end SaveError

namespace Files

/-- Creates a directory and those above it. `above` lists the paths from the directory up, as far
as they have a name. Directories made before a failure stay. -/
def makeDirectories (files : Files) : List String → Except Cause Unit × Files
  | [] => (.ok (), files)
  | path :: above =>
    let settle (files : Files) : Except Cause Files → Except Cause Unit × Files
      | .ok files => (.ok (), files)
      | .error .exists =>
        (if files.isDirectory path then .ok () else .error .exists, files)
      | .error cause => (.error cause, files)
    match files.makeDirectory path with
    | .error .noEntry =>
      match files.makeDirectories above with
      | (.ok (), files) => settle files (files.makeDirectory path)
      | failed => failed
    | result => settle files result

/-- A path and its parents, as long as `fuel` lasts and there is a name. -/
def upward : Nat → String → List String
  | 0, _ => []
  | fuel + 1, path =>
    match Path.parent? path with
    | some parent => path :: upward fuel parent
    | none => []

/-- Writes a text after creating the directory that is to hold it. -/
def save (files : Files) (path text : String) : Except SaveError Unit × Files :=
  let directory := (Path.parent? path).getD ""
  match files.makeDirectories (upward directory.utf8ByteSize directory) with
  | (.error cause, files) => (.error (.createDirectory directory cause), files)
  | (.ok (), files) =>
    match files.write path text.toUTF8 false with
    | .ok files => (.ok (), files)
    | .error cause => (.error (.write path cause), files)

end Files

end TraceWeave
