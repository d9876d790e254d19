import TraceWeave.Shell.Pattern
import TraceWeave.Shell.Program.Reading

/-! Programs that work on characters, fields and the order of lines. -/

namespace TraceWeave.Shell.Program

/-! ### Characters -/

/-- The character that a backslash and what follows it mean, and what comes after. -/
def escapedChar (text : List Char) : Char × List Char :=
  match text with
  | [] => ('\\', [])
  | c :: rest =>
    let digits := (text.take 3).takeWhile fun c => '0' ≤ c && c ≤ '7'
    if !digits.isEmpty then
      (Char.ofNat (digits.foldl (fun n d => 8 * n + (d.toNat - '0'.toNat)) 0 % 256),
        text.drop digits.length)
    else
      let found := match c with
        | 'n' => '\n'
        | 't' => '\t'
        | 'r' => '\x0d'
        | 'a' => '\x07'
        | 'b' => '\x08'
        | 'f' => '\x0c'
        | 'v' => '\x0b'
        | c => c
      (found, rest)

def allChars : List Char := (List.range 256).map Char.ofNat

/-- A piece of a set of characters: some characters, or one that is repeated, as often as needed
where no count is given. -/
inductive SetPiece where
  | chars (chars : List Char)
  | repeated (c : Char) (count? : Option Nat)

/-- Reads a set; ranges and classes stand for their characters. -/
def setPieces : Nat → List Char → Except String (List SetPiece)
  | 0, _ | _, [] => .ok []
  | fuel + 1, c :: rest => do
    let classed (name : List Char) : Option (List Char) :=
      (classOf? (String.ofList name)).map fun holds => allChars.filter holds
    let single (c : Char) (rest : List Char) : Except String (List SetPiece) := do
      match rest with
      | '-' :: d :: rest =>
        let (high, rest) := if d = '\\' then escapedChar rest else (d, rest)
        if high.toNat < c.toNat then
          .error ("range-endpoints of '" ++ String.ofList [c, '-', high]
            ++ "' are in reverse collating sequence order")
        else
          let range := allChars.filter fun x => c.toNat ≤ x.toNat ∧ x.toNat ≤ high.toNat
          .ok (.chars range :: (← setPieces fuel rest))
      | rest => .ok (.chars [c] :: (← setPieces fuel rest))
    match c, rest with
    | '\\', rest =>
      let (found, rest) := escapedChar rest
      single found rest
    | '[', ':' :: named =>
      let name := named.takeWhile (· ≠ ':')
      match classed name, named.drop name.length with
      | some found, ':' :: ']' :: rest => .ok (.chars found :: (← setPieces fuel rest))
      | none, ':' :: ']' :: _ =>
        .error ("invalid character class " ++ Desk.quoted (String.ofList name))
      | _, _ => single c rest
    | '[', '=' :: d :: '=' :: ']' :: rest => .ok (.chars [d] :: (← setPieces fuel rest))
    | '[', d :: '*' :: more =>
      let digits := more.takeWhile Char.isDigit
      match more.drop digits.length with
      | ']' :: rest =>
        let count := ((String.ofList digits).toNat?).getD 0
        .ok (.repeated d (if count = 0 then none else some count) :: (← setPieces fuel rest))
      | _ => single c rest
    | _, _ => single c rest

/-- The characters of a set, filled up to some length where one of them repeats. -/
def setChars (length : Nat) (pieces : List SetPiece) : List Char :=
  let fixed := pieces.foldl (fun fixed piece => match piece with
    | .chars chars => fixed + chars.length
    | .repeated _ count? => fixed + count?.getD 0) 0
  pieces.flatMap fun
    | .chars chars => chars
    | .repeated c count? => List.replicate (count?.getD (length - fixed)) c

def readSet (length : Nat) (text : String) : Except String (List Char) := do
  return setChars length (← setPieces (text.length + 1) text.toList)

/-- Characters without those that repeat the one before them and are in a set. -/
def squeeze (set : List Char) : Option Char → List Char → List Char
  | _, [] => []
  | last?, c :: rest =>
    if last? = some c ∧ set.contains c then squeeze set last? rest
    else c :: squeeze set (some c) rest

/-- What an exchange makes of a character: what stands at its place in the other set, whose last
character stands for all places beyond. -/
def exchanged (table : List (Char × Char)) (c : Char) : Char := (table.lookup c).getD c

/-- The last character for a key that occurs more than once counts. -/
def exchangeTable (source target : List Char) : List (Char × Char) :=
  let filler := target.getLast?.getD ' '
  let padded := target ++ List.replicate (source.length - target.length) filler
  (source.zip padded).reverse

def transliterate (arguments : Arguments) : StateM Desk Unit := do
  let has := arguments.has
  let complemented := has "c" || has "C"
  let complement (set : List Char) : List Char :=
    if complemented then allChars.filter (!set.contains ·) else set
  let exchanges := !has "d"
  let prepared : Except String (List Char × List Char) := do
    let first ← readSet 0 (arguments.operands.headD "")
    let first := complement first
    let second ← readSet first.length ((arguments.operands[1]?).getD "")
    .ok (if has "t" then first.take second.length else first, second)
  match arguments.operands, prepared with
  | [], _ => Desk.misuse "missing operand"
  | _, .error text => Desk.complain text
  | operands, .ok (first, second) =>
    let count := operands.length
    let two := count = 2
    let wanted : Nat × Nat :=
      if has "d" && has "s" then (2, 2) else if has "d" then (1, 1)
      else if has "s" then (1, 2) else (2, 2)
    let lastOperand := Desk.quoted ((operands[count - 1]?).getD "")
    if count < wanted.1 then
      Desk.complain ("missing operand after " ++ lastOperand)
      Desk.note (if has "d" then
          "Two strings must be given when both deleting and squeezing repeats."
        else "Two strings must be given when translating.")
      Desk.note ("Try '" ++ (← get).name ++ " --help' for more information.")
    else if wanted.2 < count then
      Desk.complain ("extra operand " ++ Desk.quoted ((operands[wanted.2]?).getD ""))
      if has "d" ∧ count = 2 then
        Desk.note "Only one string may be given when deleting without squeezing repeats."
      Desk.note ("Try '" ++ (← get).name ++ " --help' for more information.")
    else if exchanges && two && second.isEmpty && !first.isEmpty && !has "t" then
      Desk.complain "when not truncating set1, string2 must be non-empty"
    else
      match ← Desk.takeInput with
      | .error cause => Desk.complain ("read error: " ++ cause.reason)
      | .ok text =>
        let text := text.toList
        let text := if has "d" then text.filter (!first.contains ·)
          else if two then
            let table := exchangeTable first second
            text.map (exchanged table)
          else text
        let set := if two then second else first
        Desk.printChars (if has "s" then squeeze set none text else text)

def tr : Program := fun arguments =>
  let forms := [flag 'c' "complement", flag 'C' "", flag 'd' "delete",
    flag 's' "squeeze-repeats", flag 't' "truncate-set1"]
  match Arguments.read forms true arguments with
  | .ok arguments => transliterate arguments
  | .error text => Desk.misuse text

/-! ### Fields -/

def splitAt (c : Char) (text : List Char) : List (List Char) :=
  text.foldr (fun d parts =>
    if d = c then [] :: parts
    else match parts with
      | part :: parts => (d :: part) :: parts
      | [] => [[d]]) [[]]

/-- Ranges of places such as `1,3-5,7-`, as bounds. -/
def ranges? (text : String) : Option (List (Nat × Option Nat)) :=
  ((text.splitOn ",").map fun part =>
    match part.splitOn "-" with
    | [one] => one.toNat?.map fun n => (n, some n)
    | [low, high] =>
      if low = "" ∧ high = "" then none
      else if high = "" then low.toNat?.map fun n => (n, none)
      else if low = "" then high.toNat?.map fun n => (1, some n)
      else do some (← low.toNat?, some (← high.toNat?))
    | _ => none).mapM id

def inRanges (ranges : List (Nat × Option Nat)) (n : Nat) : Bool :=
  ranges.any fun (low, high?) => decide (low ≤ n) && high?.all fun high => decide (n ≤ high)

def cut : Program := .withOptions
    ([needing 'b' "bytes", needing 'c' "characters", needing 'f' "fields",
      needing 'd' "delimiter", flag 's' "only-delimited", ⟨none, "complement", .none⟩,
      ⟨none, "output-delimiter", .required⟩] ++ flags "nz") fun arguments => do
  let asked := ["b", "c", "f"].filterMap fun key =>
    (arguments.value? key).map fun list => (key, list)
  let delimiter := (arguments.value? "d").getD "\t"
  match asked with
  | [] => Desk.misuse "you must specify a list of bytes, characters, or fields"
  | [(key, list)] =>
    if (arguments.value? "d").isSome ∧ key ≠ "f" then
      Desk.misuse "an input delimiter may be specified only when operating on fields"
    else if 1 < delimiter.length then Desk.misuse "the delimiter must be a single character"
    else
      match ranges? list with
      | none =>
        Desk.misuse (if key = "f" then "invalid field value " ++ Desk.quoted list
          else "invalid byte or character range")
      | some ranges =>
        if ranges.any (·.1 = 0) then
          Desk.misuse (if key = "f" then "fields are numbered from 1"
            else "byte/character positions are numbered from 1")
        else
          let c := delimiter.toList.headD '\x00'
          let joint := ((arguments.value? "output-delimiter").getD
            (if key = "f" then delimiter else "")).toList
          let keeps (n : Nat) : Bool := inRanges ranges n != arguments.has "complement"
          let pick {α : Type} (items : List α) : List α :=
            (items.zipIdx 1).filterMap fun (item, n) => if keeps n then some item else none
          forEachText arguments.operands fun _ text =>
            Desk.printChars ((linesOf '\n' text.toList).flatMap fun line =>
              let text := bare '\n' line
              if key = "f" then
                if !text.contains c then if arguments.has "s" then [] else text ++ ['\n']
                else joint.intercalate (pick (splitAt c text)) ++ ['\n']
              else pick text ++ ['\n'])
  | _ => Desk.misuse "only one list may be specified"

def sideBySide (joint : Nat → List Char) : Nat → List (List (List Char)) → List (List Char)
  | 0, _ => []
  | fuel + 1, columns =>
    if columns.all List.isEmpty then []
    else
      let row := columns.mapIdx fun i column =>
        (if i = 0 then [] else joint (i - 1)) ++ column.headD []
      row.flatten :: sideBySide joint fuel (columns.map (·.drop 1))

def paste : Program := .withOptions
    [needing 'd' "delimiters", flag 's' "serial"] fun arguments => do
  let delimiters := ((arguments.value? "d").getD "\t").toList
  let unescaped : List (List Char) :=
    let rec loop : Nat → List Char → List (List Char)
      | 0, _ | _, [] => []
      | fuel + 1, '\\' :: rest =>
        match rest with
        | '0' :: rest => [] :: loop fuel rest
        | _ =>
          let (c, rest) := escapedChar rest
          [c] :: loop fuel rest
      | fuel + 1, c :: rest => [c] :: loop fuel rest
    loop (delimiters.length + 1) delimiters
  let joint (n : Nat) : List Char :=
    if unescaped.isEmpty then [] else (unescaped[n % unescaped.length]?).getD []
  let paths := sources arguments.operands
  let columns ← paths.mapM fun path => do
    match ← Desk.content path with
    | .text text => pure ((linesOf '\n' text.toList).map (bare '\n'))
    | .unopened cause | .unread cause =>
      Desk.complain (path ++ ": " ++ cause.reason)
      pure []
  let shown : List (List Char) :=
    if arguments.has "s" then
      columns.map fun lines =>
        (lines.mapIdx fun i line => (if i = 0 then [] else joint (i - 1)) ++ line).flatten
    else sideBySide joint ((columns.map List.length).foldl max 0 + 1) columns
  Desk.printChars (shown.flatMap (· ++ ['\n']))

/-! ### Order -/

structure Measure where
  negative : Bool
  whole : List Char
  fraction : List Char

def Measure.ofText (text : List Char) : Measure :=
  let text := text.dropWhile fun c => c = ' ' ∨ c = '\t'
  let (negative, digits) : Bool × List Char := match text with
    | '-' :: rest => (true, rest)
    | rest => (false, rest)
  let whole := digits.takeWhile Char.isDigit
  let fraction := match digits.drop whole.length with
    | '.' :: rest => rest.takeWhile Char.isDigit
    | _ => []
  ⟨negative, whole.dropWhile (· = '0'),
    ((fraction.reverse).dropWhile (· = '0')).reverse⟩

def Measure.isZero (m : Measure) : Bool := m.whole.isEmpty && m.fraction.isEmpty

def Measure.compare (a b : Measure) : Ordering :=
  let size (a b : Measure) : Ordering :=
    (Ord.compare a.whole.length b.whole.length).then
      ((Ord.compare (String.ofList a.whole) (String.ofList b.whole)).then
        (Ord.compare (String.ofList a.fraction) (String.ofList b.fraction)))
  let below (m : Measure) : Bool := m.negative && !m.isZero
  match below a, below b with
  | true, false => .lt
  | false, true => .gt
  | true, true => size b a
  | false, false => size a b

structure KeyOrder where
  numeric : Bool
  folded : Bool
  blankless : Bool
  reversed : Bool
  dictionary : Bool

def KeyOrder.ofLetters (letters : List Char) : KeyOrder :=
  ⟨letters.contains 'n' || letters.contains 'g' || letters.contains 'h', letters.contains 'f',
    letters.contains 'b', letters.contains 'r', letters.contains 'd'⟩

def KeyOrder.compare (order : KeyOrder) (a b : List Char) : Ordering :=
  let found :=
    if order.numeric then (Measure.ofText a).compare (Measure.ofText b)
    else
      let prepared (text : List Char) : String :=
        let text := if order.blankless then text.dropWhile fun c => c = ' ' ∨ c = '\t' else text
        let text := if order.dictionary then text.filter fun c => c.isAlphanum || c = ' ' else text
        String.ofList (if order.folded then text.map Char.toUpper else text)
      Ord.compare (prepared a) (prepared b)
  if order.reversed then found.swap else found

/-- A part of a line by which lines are ordered: from some character of a field to another one. -/
structure Key where
  startField : Nat
  startChar : Nat
  endField? : Option Nat
  endChar : Nat
  letters : List Char

/-- Reads a place such as `2.3nr`. -/
def place? (text : String) : Option (Nat × Nat × List Char) :=
  let chars := text.toList
  let field := chars.takeWhile Char.isDigit
  let rest := chars.drop field.length
  let (char, letters) : List Char × List Char := match rest with
    | '.' :: rest => (rest.takeWhile Char.isDigit, rest.dropWhile Char.isDigit)
    | _ => ([], rest)
  (String.ofList field).toNat?.map fun n =>
    (n, ((String.ofList char).toNat?).getD 0, letters)

def Key.ofText? (text : String) : Option Key :=
  match text.splitOn "," with
  | [start] => do
    let (field, char, letters) ← place? start
    if field = 0 then none else some ⟨field, max 1 char, none, 0, letters⟩
  | [start, last] => do
    let (field, char, letters) ← place? start
    let (field', char', letters') ← place? last
    if field = 0 ∨ field' = 0 then none
    else some ⟨field, max 1 char, some field', char', letters ++ letters'⟩
  | _ => none

/-- The fields of a line, each with the blanks in front of it. -/
def blankFields : Nat → List Char → List (List Char)
  | 0, _ | _, [] => []
  | fuel + 1, text =>
    let isBlank (c : Char) : Bool := c = ' ' || c = '\t'
    let gap := text.takeWhile isBlank
    let body := (text.drop gap.length).takeWhile (!isBlank ·)
    (gap ++ body) :: blankFields fuel (text.drop (gap.length + body.length))

def Key.of (key : Key) (separator? : Option Char) (line : List Char) : List Char :=
  let fields := match separator? with
    | some c => splitAt c line
    | none => blankFields (line.length + 1) line
  let width := if separator?.isSome then 1 else 0
  let offset (field : Nat) : Nat :=
    (fields.take field).flatten.length + width * min field fields.length
  let start := min line.length (offset (key.startField - 1) + (key.startChar - 1))
  let stop := match key.endField? with
    | none => line.length
    | some field =>
      if key.endChar = 0 then min line.length (offset field - width)
      else min line.length (offset (field - 1) + key.endChar)
  (line.take stop).drop start

structure LineOrder where
  keys : List Key
  separator? : Option Char
  letters : List Char
  /-- Whether lines that are alike by their keys stay in their order. -/
  stable : Bool

def LineOrder.byKeys (order : LineOrder) (a b : List Char) : Ordering :=
  if order.keys.isEmpty then
    if order.letters.isEmpty then .eq else (KeyOrder.ofLetters order.letters).compare a b
  else
    order.keys.foldl (fun found key =>
      let letters := if key.letters.isEmpty then order.letters else key.letters
      found.then ((KeyOrder.ofLetters letters).compare
        (key.of order.separator? a) (key.of order.separator? b))) .eq

def LineOrder.compare (order : LineOrder) (a b : List Char) : Ordering :=
  let last : Ordering :=
    if order.stable then .eq
    else
      let found := Ord.compare (String.ofList a) (String.ofList b)
      if order.letters.contains 'r' then found.swap else found
  (order.byKeys a b).then last

/-- Lines without those that the one before them equals. -/
def withoutRepeats (same : List Char → List Char → Bool) : List (List Char) → List (List Char)
  | a :: b :: rest =>
    if same a b then withoutRepeats same (a :: rest) else a :: withoutRepeats same (b :: rest)
  | lines => lines
termination_by lines => lines.length

def disorder? (order : LineOrder) : Nat → List (List Char) → Option (Nat × List Char)
  | n, a :: b :: rest =>
    if order.compare b a = .lt then some (n + 1, b) else disorder? order (n + 1) (b :: rest)
  | _, _ => none

def sort : Program := fun arguments => do
  modify fun desk => { desk with trouble := 2 }
  Program.withOptions
    ([flag 'r' "reverse", flag 'n' "numeric-sort", flag 'u' "unique", flag 'f' "ignore-case",
      flag 'b' "ignore-leading-blanks", flag 'd' "dictionary-order", flag 's' "stable",
      flag 'c' "check", flag 'm' "merge", flag 'g' "general-numeric-sort",
      flag 'h' "human-numeric-sort", needing 'k' "key", needing 't' "field-separator",
      needing 'o' "output"] ++ flags "CizV") (fun arguments => do
    let letters := "rnfbdgh".toList.filter fun letter => arguments.has (String.singleton letter)
    let keyTexts := arguments.options.filterMap fun (key, text) =>
      if key = "k" then some text else none
    let separator? := (arguments.value? "t").map fun text =>
      if text = "\\0" then '\x00' else text.toList.headD '\x00'
    match keyTexts.find? fun text => (Key.ofText? text).isNone with
    | some text =>
      Desk.complain ("invalid number at field start: invalid count at start of "
        ++ Desk.quoted text)
    | none =>
      let unique := arguments.has "u"
      let stable := arguments.has "s" || unique
      let order : LineOrder := ⟨keyTexts.filterMap Key.ofText?, separator?, letters, stable⟩
      let gathered ← (sources arguments.operands).mapM fun path => do
        match ← Desk.content path with
        | .text text => pure (some ((linesOf '\n' text.toList).map (bare '\n')))
        | .unopened cause =>
          Desk.complain ("cannot read: " ++ path ++ ": " ++ cause.reason)
          pure none
        | .unread cause =>
          Desk.complain ("read failed: " ++ path ++ ": " ++ cause.reason)
          pure none
      if gathered.all Option.isSome then
        let lines := (gathered.map fun lines? => lines?.getD []).flatten
        if arguments.has "c" || arguments.has "C" then
          match disorder? order 1 lines with
          | some (n, line) =>
            if arguments.has "c" then
              Desk.complain ((arguments.operands.headD "-") ++ ":" ++ toString n ++ ": disorder: "
                ++ String.ofList line)
            Desk.setStatus 1
          | none => pure ()
        else
          let sorted := lines.mergeSort fun a b => order.compare a b != .gt
          let same (a b : List Char) : Bool :=
            if order.keys.isEmpty && letters.all (· = 'r') then a == b
            else order.byKeys a b == .eq
          let kept := if unique then withoutRepeats same sorted else sorted
          let text := String.ofList (kept.flatMap (· ++ ['\n']))
          match arguments.value? "o" with
          | some path =>
            match ← Desk.store path text false with
            | none => pure ()
            | some cause => Desk.complain ("open failed: " ++ path ++ ": " ++ cause.reason)
          | none => Desk.print text) arguments

def runs (same : List Char → List Char → Bool) : List (List Char) → List (List Char × Nat)
  | [] => []
  | line :: lines =>
    match runs same lines with
    | (next, count) :: rest =>
      if same line next then (line, count + 1) :: rest else (line, 1) :: (next, count) :: rest
    | [] => [(line, 1)]

def uniq : Program := .withOptions
    [flag 'c' "count", flag 'd' "repeated", flag 'u' "unique", flag 'i' "ignore-case",
      needing 'f' "skip-fields", needing 's' "skip-chars", needing 'w' "check-chars"]
    fun arguments => do
  let number (key : String) : Option Nat := (arguments.value? key).bind String.toNat?
  let compared (line : List Char) : List Char :=
    let fields := blankFields (line.length + 1) line
    let skipped := (fields.take ((number "f").getD 0)).flatten.length
    let rest := (line.drop skipped).drop ((number "s").getD 0)
    let rest := ((number "w").map rest.take).getD rest
    if arguments.has "i" then rest.map Char.toLower else rest
  let source := arguments.operands.headD "-"
  match ← Desk.content source with
  | .unopened cause | .unread cause => Desk.complain (source ++ ": " ++ cause.reason)
  | .text text =>
    let lines := (linesOf '\n' text.toList).map (bare '\n')
    let found := runs (fun a b => compared a == compared b) lines
    let kept := found.filter fun (_, count) =>
      (!arguments.has "d" || decide (1 < count)) && (!arguments.has "u" || count == 1)
    let shown := String.join (kept.map fun (line, count) =>
      (if arguments.has "c" then padLeft 7 (toString count) ++ " " else "")
        ++ String.ofList line ++ "\n")
    match arguments.operands[1]? with
    | some path =>
      match ← Desk.store path shown false with
      | none => pure ()
      | some cause => Desk.complain (path ++ ": " ++ cause.reason)
    | none => Desk.print shown

end TraceWeave.Shell.Program
