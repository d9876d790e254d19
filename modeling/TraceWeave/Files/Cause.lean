/-! Why the system refuses to open, write, create or start something. -/

namespace TraceWeave

inductive Cause where
  | notPermitted
  | noEntry
  | badFormat
  | badDescriptor
  | denied
  | busy
  | exists
  | notDirectory
  | isDirectory
  | invalid
  | noSpace
  | nameTooLong
  | notEmpty
  | tooManyLevels
  /-- A path with a NUL character. -/
  | nulInPath
  /-- A command with a NUL character in its name or an argument. -/
  | nulInCommand
  /-- Any other cause, by its text. -/
  | other (text : String)
  deriving DecidableEq

namespace Cause

def reason : Cause → String
  | .notPermitted => "Operation not permitted"
  | .noEntry => "No such file or directory"
  | .badFormat => "Exec format error"
  | .badDescriptor => "Bad file descriptor"
  | .denied => "Permission denied"
  | .busy => "Device or resource busy"
  | .exists => "File exists"
  | .notDirectory => "Not a directory"
  | .isDirectory => "Is a directory"
  | .invalid => "Invalid argument"
  | .noSpace => "No space left on device"
  | .nameTooLong => "File name too long"
  | .notEmpty => "Directory not empty"
  | .tooManyLevels => "Too many levels of symbolic links"
  | .nulInPath => "file name contained an unexpected NUL byte"
  | .nulInCommand => "nul byte found in provided data"
  | .other text => text

def number? : Cause → Option Nat
  | .notPermitted => some 1
  | .noEntry => some 2
  | .badFormat => some 8
  | .badDescriptor => some 9
  | .denied => some 13
  | .busy => some 16
  | .exists => some 17
  | .notDirectory => some 20
  | .isDirectory => some 21
  | .invalid => some 22
  | .noSpace => some 28
  | .nameTooLong => some 36
  | .notEmpty => some 39
  | .tooManyLevels => some 40
  | .nulInPath | .nulInCommand | .other _ => none

def message (cause : Cause) : String :=
  match cause.number? with
  | some number => cause.reason ++ " (os error " ++ toString number ++ ")"
  | none => cause.reason

end Cause

end TraceWeave
