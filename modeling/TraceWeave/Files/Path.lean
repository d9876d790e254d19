import TraceWeave.Files.Cause

/-! Paths: names parted by slashes.

Empty names say nothing, so repeated slashes count as one. A path that begins with a slash starts
at the root, any other at the working directory; one that ends with a slash can only be a
directory. -/

namespace TraceWeave.Path

/-- The pieces between the slashes, empty ones included. -/
def pieces : List Char → List (List Char)
  | [] => [[]]
  | c :: rest =>
    if c = '/' then [] :: pieces rest
    else
      match pieces rest with
      | piece :: more => (c :: piece) :: more
      | [] => [[c]]

def join : List (List Char) → List Char
  | [] => []
  | [piece] => piece
  | piece :: more => piece ++ '/' :: join more

/-- Drops the last pieces that name nothing: empty ones and, except where `keepDot` says that it
would be the first piece of a relative path, a single dot. Works on pieces in reverse order. -/
def dropIdle (keepDot : Bool) : List (List Char) → List (List Char)
  | [] => []
  | piece :: more =>
    if piece = [] ∨ (piece = ['.'] ∧ ¬ (keepDot ∧ more = [])) then dropIdle keepDot more
    else piece :: more

/-- The text of a path without its last name, if it has a name: the empty text for a name alone,
the root for a name at the root. -/
def parent? (path : String) : Option String :=
  let chars := path.toList
  let absolute := chars.head? = some '/'
  match dropIdle (!absolute) (pieces chars).reverse with
  | [] => none
  | _ :: more =>
    match dropIdle (!absolute) more with
    | [] => some (if absolute then "/" else "")
    | rest => some (String.ofList (join rest.reverse))

end Path

/-- A path as the system walks it. -/
structure Address where
  absolute : Bool
  names : List String
  /-- Whether only a directory will do. -/
  slash : Bool

namespace Address

/-- The longest name and the longest path, in bytes. -/
def maxName : Nat := 255
def maxPath : Nat := 4095

def ofPath (path : String) : Except Cause Address :=
  let chars := path.toList
  if chars.contains '\x00' then .error .nulInPath
  else if chars.isEmpty then .error .noEntry
  else if maxPath < path.utf8ByteSize then .error .nameTooLong
  else
    .ok {
      absolute := chars.head? = some '/'
      names := ((Path.pieces chars).filter (!·.isEmpty)).map String.ofList
      slash := chars.getLast? = some '/' }

end Address

end TraceWeave
