import TraceWeave.Shell.Program.Options

/-! Programs that copy what they read, whole or in part. -/

namespace TraceWeave.Shell.Program

/-- The paths to read: the input where there are none. -/
def sources (operands : List String) : List String :=
  if operands.isEmpty then ["-"] else operands

/-- Reads every path and hands on what is there. What cannot be read is said and left out. -/
def forEachText (paths : List String) (use : String → String → StateM Desk Unit) :
    StateM Desk Unit :=
  (sources paths).forM fun path => do
    match ← Desk.content path with
    | .text text => use path text
    | .unopened cause | .unread cause => Desk.complain (path ++ ": " ++ cause.reason)

/-! ### Whole texts -/

/-- Writes what is no ordinary character so that it can be seen. -/
def visible (tabs : Bool) (c : Char) : List Char :=
  if c = '\n' ∨ (c = '\t' ∧ ¬ tabs) then [c]
  else
    let low (n : Nat) : List Char :=
      if n < 32 then ['^', Char.ofNat (n + 64)]
      else if n = 127 then ['^', '?']
      else [Char.ofNat n]
    if c.toNat < 128 then low c.toNat else 'M' :: '-' :: low (c.toNat - 128)

/-- Lines without empty ones behind an empty one. -/
def squeezed : Bool → List (List Char) → List (List Char)
  | _, [] => []
  | blank, line :: lines =>
    let empty := line = ['\n']
    if empty && blank then squeezed true lines else line :: squeezed empty lines

def padLeft (width : Nat) (text : String) : String :=
  String.ofList (List.replicate (width - text.length) ' ') ++ text

def numbered (nonempty : Bool) : Nat → List (List Char) → List (List Char)
  | _, [] => []
  | next, line :: lines =>
    if nonempty ∧ line = ['\n'] then line :: numbered nonempty next lines
    else ((padLeft 6 (toString next)).toList ++ '\t' :: line) :: numbered nonempty (next + 1) lines

/-- Whether a path is the file that is being written to, so that copying would never end. -/
def isOutput (path : String) : StateM Desk Bool := do
  let desk ← get
  let input? ← do
    if path = "-" then
      match (desk.descriptors.stream? 0).bind (desk.system.streams[·]?) with
      | some (.file place ..) => pure (some place)
      | _ => pure none
    else
      match ← Desk.find path with
      | .ok (place, .file ..) => pure (some place)
      | _ => pure none
  match (desk.descriptors.stream? 1).bind (desk.system.streams[·]?), input? with
  | some (.file place position appends), some input =>
    let limit := if appends then (desk.system.fileContent place).size else position
    pure (place == input && limit != 0)
  | _, _ => pure false

def cat : Program := .withOptions
    (flags "u" ++ [flag 'A' "show-all", flag 'b' "number-nonblank", flag 'E' "show-ends",
      flag 'n' "number", flag 's' "squeeze-blank", flag 'T' "show-tabs",
      flag 'v' "show-nonprinting"] ++ flags "et") fun arguments => do
  let has := arguments.has
  let ends := has "E" || has "A" || has "e"
  let tabs := has "T" || has "A" || has "t"
  let shown := has "v" || has "A" || has "e" || has "t"
  let dress (line : List Char) : List Char :=
    let text := bare '\n' line
    let ending := line.drop text.length
    let text := if shown then text.flatMap (visible tabs)
      else if tabs then text.flatMap fun c => if c = '\t' then ['^', 'I'] else [c]
      else text
    text ++ (if ends && !ending.isEmpty then ['$'] else []) ++ ending
  (sources arguments.operands).forM fun path => do
    if ← isOutput path then Desk.complain (path ++ ": input file is output file")
    else
      match ← Desk.content path with
      | .unopened cause | .unread cause => Desk.complain (path ++ ": " ++ cause.reason)
      | .text text =>
        if arguments.options.isEmpty then Desk.print text
        else
          let lines := linesOf '\n' text.toList
          let lines := if has "s" then squeezed false lines else lines
          let lines := lines.map dress
          let lines := if has "n" || has "b" then numbered (has "b") 1 lines else lines
          Desk.printChars lines.flatten

def tac : Program := .withOptions [] fun arguments =>
  forEachText arguments.operands fun _ text =>
    Desk.printChars (linesOf '\n' text.toList).reverse.flatten

def rev : Program := .withOptions [] fun arguments =>
  forEachText arguments.operands fun _ text =>
    Desk.printChars ((linesOf '\n' text.toList).flatMap fun line =>
      let text := bare '\n' line
      text.reverse ++ line.drop text.length)

/-- Numbers lines; empty ones only where all are asked for. -/
def nl : Program := .withOptions (valued "bsw" ++ valued "vi") fun arguments => do
  let all := arguments.value? "b" = some "a"
  let separator := ((arguments.value? "s").getD "\t").toList
  let width := ((arguments.value? "w").bind String.toNat?).getD 6
  let first := ((arguments.value? "v").bind String.toNat?).getD 1
  let step := ((arguments.value? "i").bind String.toNat?).getD 1
  let rec loop : Nat → List (List Char) → List Char
    | _, [] => []
    | n, line :: lines =>
      let text := bare '\n' line
      if text.isEmpty ∧ ¬ all then
        List.replicate (width + separator.length) ' ' ++ '\n' :: loop n lines
      else (padLeft width (toString n)).toList ++ separator ++ text ++ '\n' :: loop (n + step) lines
  forEachText arguments.operands fun _ text =>
    Desk.printChars (loop first (linesOf '\n' text.toList))

def tee : Program := .withOptions [flag 'a' "append", flag 'i' "ignore-interrupts"]
    fun arguments => do
  match ← Desk.takeInput with
  | .error cause => Desk.complain ("read error: " ++ cause.reason)
  | .ok text =>
    Desk.print text
    arguments.operands.forM fun path => do
      match ← Desk.store path text (arguments.has "a") with
      | none => pure ()
      | some cause => Desk.complain (path ++ ": " ++ cause.reason)

/-- Repeats a line, far more often than anybody reads. -/
def yes : Program := fun arguments => do
  let line := (if arguments.isEmpty then "y" else " ".intercalate arguments) ++ "\n"
  Desk.print (String.join (List.replicate (System.endless / line.length + 1) line))

/-! ### Parts of texts -/

/-- A number with a letter for a multiple behind it. -/
def count? (text : String) : Option Nat :=
  let digits := text.toList.takeWhile Char.isDigit
  let factor? : Option Nat := match String.ofList (text.toList.drop digits.length) with
    | "" => some 1
    | "b" => some 512
    | "kB" | "KB" => some 1000
    | "k" | "K" | "KiB" => some 1024
    | "MB" => some 1000000
    | "m" | "M" | "MiB" => some 1048576
    | _ => none
  match (String.ofList digits).toNat?, factor? with
  | some n, some factor => some (n * factor)
  | _, _ => none

/-- How much of a text is taken: so many bytes or lines from one of its ends, all but so many, or
all from some place on. -/
structure Amount where
  count : Nat
  bytes : Bool
  /-- All but the counted ones, or from the counted one on. -/
  others : Bool

def firstLines (ending : Char) : Nat → List Char → List Char
  | 0, _ | _, [] => []
  | count + 1, c :: rest => c :: firstLines ending (if c = ending then count else count + 1) rest

def Amount.start (amount : Amount) (text : List Char) : List Char :=
  if amount.bytes then
    if amount.others then text.take (text.length - amount.count) else text.take amount.count
  else if amount.others then
    let lines := linesOf '\n' text
    (lines.take (lines.length - amount.count)).flatten
  else firstLines '\n' amount.count text

def Amount.end (amount : Amount) (text : List Char) : List Char :=
  let count := if amount.others then amount.count - 1 else amount.count
  if amount.bytes then
    if amount.others then text.drop count else text.drop (text.length - count)
  else
    let lines := linesOf '\n' text
    (lines.drop (if amount.others then count else lines.length - count)).flatten

/-- The amount that a value says. A sign in front, `-` for the start and `+` for the end, means
the others. -/
def amount? (bytes : Bool) (sign : Char) (text : String) : Option Amount :=
  match text.toList with
  | c :: rest =>
    if c = sign then (count? (String.ofList rest)).map fun count => ⟨count, bytes, true⟩
    else
      let digits := if c = '-' ∨ c = '+' then rest else c :: rest
      (count? (String.ofList digits)).map fun count => ⟨count, bytes, false⟩
  | [] => none

/-- Options in an old form, a count behind a hyphen, as they are written now. -/
def modernized (arguments : List String) : List String :=
  match arguments with
  | first :: rest =>
    match first.toList with
    | '-' :: c :: digits =>
      if c.isDigit ∧ digits.all Char.isDigit then
        "-n" :: String.ofList (c :: digits) :: rest
      else arguments
    | '+' :: c :: digits =>
      if c.isDigit ∧ digits.all Char.isDigit then "-n" :: first :: rest else arguments
    | _ => arguments
  | [] => []

def askedAmount (sign : Char) (arguments : Arguments) : Except String Amount :=
  match arguments.options.reverse.find? fun option => option.1 = "n" || option.1 = "c" with
  | none => .ok ⟨10, false, false⟩
  | some (key, text) =>
    match amount? (key = "c") sign text with
    | some amount => .ok amount
    | none =>
      let what := if key = "c" then "bytes" else "lines"
      .error ("invalid number of " ++ what ++ ": " ++ Desk.quoted text)

/-- Prints a part of every text, with its path above it where there are several. -/
def parts (part : List Char → List Char) (enough : Nat) (givesBack : Bool)
    (arguments : Arguments) : StateM Desk Unit := do
  let paths := sources arguments.operands
  let titled := (1 < paths.length || arguments.has "v") && !arguments.has "q"
  let rec loop (first : Bool) : List String → StateM Desk Unit
    | [] => pure ()
    | path :: paths => do
      let name := if path = "-" then "standard input" else path
      let title : StateM Desk Unit :=
        if titled then
          Desk.print ((if first then "" else "\n") ++ "==> " ++ name ++ " <==\n")
        else pure ()
      match ← Desk.contentUpTo enough path with
      | .unopened cause =>
        Desk.complain ("cannot open " ++ Desk.quoted path ++ " for reading: " ++ cause.reason)
        loop first paths
      | .unread cause =>
        title
        Desk.complain ("error reading " ++ Desk.quoted name ++ ": " ++ cause.reason)
        loop false paths
      | .text text =>
        title
        let shown := part text.toList
        Desk.printChars shown
        if givesBack ∧ path = "-" then Desk.giveBack (text.length - shown.length)
        loop false paths
  loop true paths

def partForms : List OptionForm :=
  [needing 'n' "lines", needing 'c' "bytes", flag 'q' "quiet", flag 'v' "verbose",
    flag 'z' "zero-terminated"]

def head : Program := fun arguments =>
  Program.withOptions partForms (fun arguments => do
    match askedAmount '-' arguments with
    | .ok amount =>
      let enough := if amount.bytes && !amount.others then amount.count else System.endless
      parts amount.start enough (!amount.others) arguments
    | .error text => Desk.complain text) (modernized arguments)

def tail : Program := fun arguments =>
  Program.withOptions (partForms ++ flags "fF") (fun arguments => do
    match askedAmount '+' arguments with
    | .ok amount => parts amount.end System.endless false arguments
    | .error text => Desk.complain text) (modernized arguments)

/-! ### Counting -/

structure Counts where
  lines : Nat
  words : Nat
  chars : Nat
  longest : Nat

def isSpace (c : Char) : Bool := c = ' ' || (9 ≤ c.toNat && c.toNat ≤ 13)

def wordCount : Bool → List Char → Nat
  | _, [] => 0
  | inWord, c :: rest =>
    if isSpace c then wordCount false rest
    else (if inWord then 0 else 1) + wordCount true rest

def Counts.ofText (text : List Char) : Counts :=
  ⟨text.count '\n', wordCount false text, text.length,
    ((linesOf '\n' text).map fun line => (bare '\n' line).length).foldl max 0⟩

def Counts.add (a b : Counts) : Counts :=
  ⟨a.lines + b.lines, a.words + b.words, a.chars + b.chars, max a.longest b.longest⟩

def size? (path : String) : StateM Desk (Option Nat) := do
  let desk ← get
  if path = "-" then
    match (desk.descriptors.stream? 0).bind (desk.system.streams[·]?) with
    | some (.file place ..) => pure (some (desk.system.fileContent place).size)
    | _ => pure none
  else
    match ← Desk.find path with
    | .ok (_, .file content _) => pure (some content.size)
    | .ok _ => pure none
    | .error _ => pure (some 0)

def wc : Program := .withOptions
    [flag 'c' "bytes", flag 'm' "chars", flag 'l' "lines", flag 'L' "max-line-length",
      flag 'w' "words"] fun arguments => do
  let has := arguments.has
  let standard := arguments.options.isEmpty
  let kinds := [("l", Counts.lines), ("w", Counts.words), ("m", Counts.chars),
    ("c", Counts.chars), ("L", Counts.longest)].filter fun (key, _) =>
      has key || (standard && ["l", "w", "c"].contains key)
  let paths := sources arguments.operands
  let sizes ← paths.mapM size?
  let width :=
    if paths.length = 1 ∧ kinds.length = 1 then 1
    else
      let total := sizes.foldl (fun total size? => total + size?.getD 0) 0
      max (toString total).length (if sizes.any Option.isNone then 7 else 1)
  let display (counts : Counts) (name : String) : StateM Desk Unit := do
    let numbers := kinds.map fun (_, kind) => padLeft width (toString (kind counts))
    Desk.print (" ".intercalate numbers ++ (if name = "" then "" else " " ++ name) ++ "\n")
  let rec loop (total : Counts) : List String → StateM Desk Counts
    | [] => pure total
    | path :: paths => do
      match ← Desk.content path with
      | .unopened cause =>
        Desk.complain (path ++ ": " ++ cause.reason)
        loop total paths
      | .unread cause =>
        Desk.complain (path ++ ": " ++ cause.reason)
        display ⟨0, 0, 0, 0⟩ path
        loop total paths
      | .text text =>
        let counts := Counts.ofText text.toList
        display counts (if arguments.operands.isEmpty then "" else path)
        loop (total.add counts) paths
  let total ← loop ⟨0, 0, 0, 0⟩ paths
  if 1 < paths.length then display total "total"

end TraceWeave.Shell.Program
