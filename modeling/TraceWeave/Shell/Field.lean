import TraceWeave.Shell.Pattern

/-! From the characters of an expanded word to the fields that a command is given.

Characters that come from values are parted at separators. Blanks among the separators count as
one and not at all at the ends; any other separator ends a field, be it an empty one. -/

namespace TraceWeave.Shell

inductive Atom where
  | char (c : Char) (quoted splits : Bool)
  /-- Quotes, which make a field even around nothing. -/
  | edge
  /-- Between two arguments that stay separate. -/
  | border

namespace Atom

def ofText (text : List Char) (quoted splits : Bool) : List Atom :=
  text.map fun c => .char c quoted splits

def marked (atoms : List Atom) : List Pattern.Marked :=
  atoms.filterMap fun
    | .char c quoted _ => some (c, quoted)
    | _ => none

def text (atoms : List Atom) : String := String.ofList ((marked atoms).map Prod.fst)

def isBlank (c : Char) : Bool := c = ' ' || c = '\t' || c = '\n'

/-- The atoms behind a separator and those that belong to it. `open?` says whether another
separator that is no blank can still belong to it. -/
def behindSeparator (separators : List Char) : Bool → List Atom → List Atom
  | open?, .char c quoted true :: rest =>
    if !separators.contains c then .char c quoted true :: rest
    else if isBlank c then behindSeparator separators open? rest
    else if open? then behindSeparator separators false rest
    else .char c quoted true :: rest
  | _, rest => rest

/-- The fields of an expanded word. Of a field that has not begun nothing is known. -/
def fields (separators : List Char) : Nat → Option (List Pattern.Marked) → List Atom →
    List (List Pattern.Marked)
  | 0, begun, _ | _, begun, [] => (begun.map List.reverse).toList
  | fuel + 1, begun, atom :: rest =>
    let marked := begun.getD []
    match atom with
    | .edge => fields separators fuel (some marked) rest
    | .border => marked.reverse :: fields separators fuel (some []) rest
    | .char c quoted splits =>
      if splits && separators.contains c then
        if isBlank c && begun.isNone then fields separators fuel none rest
        else
          marked.reverse
            :: fields separators fuel none (behindSeparator separators (isBlank c) rest)
      else fields separators fuel (some ((c, quoted) :: marked)) rest

end Atom

end TraceWeave.Shell
