import TraceWeave.Files.Change

/-! Patterns of a case, of names and of what is trimmed from a value. A star matches any text, a
question mark any character and a bracket any character of a set; quoting makes each of them an
ordinary character. -/

namespace TraceWeave.Shell

def classOf? (name : String) : Option (Char → Bool) :=
  let isPrinted (c : Char) : Bool := 0x20 < c.toNat && c.toNat < 0x7F
  match name with
  | "alpha" => some Char.isAlpha
  | "digit" => some Char.isDigit
  | "alnum" => some Char.isAlphanum
  | "upper" => some Char.isUpper
  | "lower" => some Char.isLower
  | "space" => some fun c => c = ' ' || (0x09 ≤ c.toNat && c.toNat ≤ 0x0D)
  | "blank" => some fun c => c = ' ' || c = '\t'
  | "punct" => some fun c => isPrinted c && !c.isAlphanum
  | "print" => some fun c => c = ' ' || isPrinted c
  | "graph" => some isPrinted
  | "cntrl" => some fun c => c.toNat < 0x20 || c.toNat = 0x7F
  | "xdigit" => some fun c => c.isDigit || ('a' ≤ c.toLower && c.toLower ≤ 'f')
  | _ => none

inductive Pattern.Range where
  | between (low high : Char)
  | class (name : String)
  deriving DecidableEq

def Pattern.Range.admits (range : Range) (c : Char) : Bool :=
  match range with
  | .between low high => low.toNat ≤ c.toNat && c.toNat ≤ high.toNat
  | .class name => (classOf? name).any fun holds => holds c

inductive Pattern.Item where
  | literal (c : Char)
  | anyText
  | anyChar
  | oneOf (negated : Bool) (ranges : List Pattern.Range)
  deriving DecidableEq

abbrev Pattern := List Pattern.Item

namespace Pattern

/-- A character and whether it is quoted. -/
abbrev Marked := Char × Bool

/-- The class whose name follows a bracket and a colon, and what follows its end. -/
def classAt? : List Marked → Option (String × List Marked)
  | ('[', false) :: (':', false) :: rest =>
    let name := rest.takeWhile fun mark => mark.1.isAlpha
    match rest.drop name.length with
    | (':', false) :: (']', false) :: rest => some (String.ofList (name.map Prod.fst), rest)
    | _ => none
  | _ => none

/-- The ranges between brackets and what follows the closing one, which may stand first as an
ordinary character. -/
def ranges : Nat → Bool → List Marked → Option (List Range × List Marked)
  | 0, _, _ | _, _, [] => none
  | fuel + 1, first, (c, quoted) :: rest =>
    if c = ']' ∧ ¬ quoted ∧ ¬ first then some ([], rest)
    else
      let onward (range : Range) (rest : List Marked) := do
        let (found, after) ← ranges fuel false rest
        some (range :: found, after)
      match classAt? ((c, quoted) :: rest) with
      | some (name, rest) => onward (.class name) rest
      | none =>
        match rest with
        | ('-', false) :: (high, quotedHigh) :: more =>
          if high = ']' ∧ ¬ quotedHigh then onward (.between c c) rest
          else onward (.between c high) more
        | _ => onward (.between c c) rest

def set (text : List Marked) : Option (Item × List Marked) :=
  let negated := text.head? = some ('!', false)
  (ranges (text.length + 1) true (if negated then text.drop 1 else text)).map
    fun (found, rest) => (.oneOf negated found, rest)

def readFrom : Nat → List Marked → Pattern
  | 0, _ | _, [] => []
  | fuel + 1, (c, quoted) :: rest =>
    if quoted then .literal c :: readFrom fuel rest
    else if c = '*' then .anyText :: readFrom fuel rest
    else if c = '?' then .anyChar :: readFrom fuel rest
    else if c = '[' then
      match set rest with
      | some (item, rest) => item :: readFrom fuel rest
      | none => .literal c :: readFrom fuel rest
    else if c = '\\' then
      match rest with
      | (d, _) :: rest => .literal d :: readFrom fuel rest
      | [] => [.literal c]
    else .literal c :: readFrom fuel rest

def read (text : List Marked) : Pattern := readFrom text.length text

def Item.admits (item : Item) (c : Char) : Bool :=
  match item with
  | .literal d => c = d
  | .anyText | .anyChar => true
  | .oneOf negated ranges => ranges.any (·.admits c) != negated

def accepts : Pattern → List Char → Bool
  | [], text => text.isEmpty
  | .anyText :: items, [] => accepts items []
  | .anyText :: items, c :: text => accepts items (c :: text) || accepts (.anyText :: items) text
  | _ :: _, [] => false
  | item :: items, c :: text => item.admits c && accepts items text
termination_by items text => items.length + text.length

/-- How much of the end, or of the start, of a text a pattern matches: the least or the most. -/
def matched? (pattern : Pattern) (atEnd longest : Bool) (text : List Char) : Option Nat :=
  let counts := List.range (text.length + 1)
  let part (count : Nat) : List Char :=
    if atEnd then text.drop (text.length - count) else text.take count
  (if longest then counts.reverse else counts).find? fun count => pattern.accepts (part count)

/-- The text without what a pattern matches at its end or its start. -/
def trim (pattern : Pattern) (atEnd longest : Bool) (text : List Char) : List Char :=
  match pattern.matched? atEnd longest text with
  | none => text
  | some count => if atEnd then text.take (text.length - count) else text.drop count

/-! ### Names of files -/

def isMagic (mark : Marked) : Bool := !mark.2 && (mark.1 = '*' || mark.1 = '?' || mark.1 = '[')

/-- Whether a pattern is meant for a name: one that begins with a dot has to be asked for. -/
def acceptsName (text : List Marked) (name : List Char) : Bool :=
  (name.head? ≠ some '.' || text.head?.map Prod.fst = some '.') && (read text).accepts name

/-- The paths that a pattern stands for, given by its parts between slashes, behind a path that is
there already. `shown` gives the text of a name. -/
def paths (files : Files) (shown : String → List Char) (place : Place) (done : List Char) :
    List (List Marked) → List (List Char)
  | [] => [done]
  | part :: parts =>
    let last := parts.isEmpty
    let separator : List Char := if last then [] else ['/']
    let onward (name : String) (text : List Char) : List (List Char) :=
      let place' :=
        if name = "" ∨ name = "." then place
        else if name = ".." then place.dropLast
        else place ++ [name]
      match files.entry? place' with
      | none => []
      | some entry =>
        let isDirectory : Bool := match entry with
          | .directory => true
          | _ => false
        if last ∨ isDirectory then
          paths files shown place' (done ++ text ++ separator) parts
        else []
    if part.any isMagic then
      ([".", ".."] ++ files.names place).flatMap fun name =>
        if acceptsName part (shown name) then onward name (shown name) else []
    else
      let text := part.map Prod.fst
      match (files.names place).find? fun name => shown name = text with
      | some name => onward name text
      | none => onward (String.ofList text) text

def parts : List Marked → List (List Marked)
  | [] => [[]]
  | (c, quoted) :: rest =>
    if c = '/' then [] :: parts rest
    else
      match parts rest with
      | part :: more => ((c, quoted) :: part) :: more
      | [] => [[(c, quoted)]]

def expandPaths (files : Files) (shown : String → List Char) (text : List Marked) :
    List (List Char) :=
  let found :=
    match parts text with
    | [] :: more => paths files shown [] ['/'] more
    | all => paths files shown files.workingDirectory [] all
  found.mergeSort fun a b => !decide (b < a)

end Pattern

end TraceWeave.Shell
