/-! Backslash escapes in the arguments of commands that print. -/

namespace TraceWeave.Shell.Escape

def letter? (c : Char) : Option Char :=
  match c with
  | '\\' => some '\\'
  | 'a' => some '\x07'
  | 'b' => some '\x08'
  | 'e' => some '\x1b'
  | 'f' => some '\x0c'
  | 'n' => some '\n'
  | 'r' => some '\x0d'
  | 't' => some '\t'
  | 'v' => some '\x0b'
  | _ => none

def isOctal (c : Char) : Bool := '0' ≤ c && c ≤ '7'

/-- The byte of up to three octal digits and what follows them. -/
def octal (text : List Char) : Char × List Char :=
  let digits := (text.take 3).takeWhile isOctal
  let code := digits.foldl (fun n d => 8 * n + (d.toNat - '0'.toNat)) 0
  (Char.ofNat (code % 256), text.drop digits.length)

/-- What stands for what follows a backslash. What is no escape stays, and the backslash too. -/
def char (text : List Char) : Char × List Char :=
  match text with
  | [] => ('\\', [])
  | c :: rest =>
    match letter? c with
    | some found => (found, rest)
    | none => if isOctal c then octal text else ('\\', text)

/-- A text without its escapes, among them one that ends all output, and whether it was met. A
zero may stand in front of octal digits. -/
def readFrom : Nat → List Char → List Char × Bool
  | 0, _ | _, [] => ([], false)
  | fuel + 1, c :: rest =>
    let onward (c : Char) (rest : List Char) :=
      let (more, stopped) := readFrom fuel rest
      (c :: more, stopped)
    if c = '\\' then
      match rest with
      | 'c' :: _ => ([], true)
      | '0' :: d :: more =>
        if isOctal d then
          let (found, rest) := octal (d :: more)
          onward found rest
        else onward '\x00' (d :: more)
      | _ =>
        let (found, rest) := char rest
        onward found rest
    else onward c rest

def read (text : List Char) : List Char × Bool := readFrom (text.length + 1) text

end TraceWeave.Shell.Escape
