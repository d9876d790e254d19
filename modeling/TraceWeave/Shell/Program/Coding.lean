import TraceWeave.Shell.Program.Reading

/-! Programs that write texts in another form: in numbers, in letters for six bits each, in short
lines. -/

namespace TraceWeave.Shell.Program

/-! ### Numbers -/

structure Dump where
  /-- How many bytes a group has. -/
  size : Nat
  /-- A letter for the form: octal, hexadecimal, decimal with a sign or without, character. -/
  form : Char

def Dump.width (dump : Dump) : Nat :=
  match dump.form, dump.size with
  | 'c', _ | 'a', _ => 3
  | 'x', size => 2 * size
  | 'o', 1 => 3
  | 'o', 2 => 6
  | 'o', 4 => 11
  | 'o', _ => 22
  | 'd', 1 => 4
  | 'd', 2 => 6
  | 'd', 4 => 11
  | 'd', _ => 20
  | _, 1 => 3
  | _, 2 => 5
  | _, 4 => 10
  | _, _ => 20

def shownByte (c : Char) : String :=
  match c with
  | '\x00' => "\\0"
  | '\x07' => "\\a"
  | '\x08' => "\\b"
  | '\t' => "\\t"
  | '\n' => "\\n"
  | '\x0b' => "\\v"
  | '\x0c' => "\\f"
  | '\x0d' => "\\r"
  | c =>
    if 32 ≤ c.toNat ∧ c.toNat < 127 then String.singleton c
    else
      let digits := Nat.toDigits 8 c.toNat
      String.ofList (List.replicate (3 - digits.length) '0' ++ digits)

def namedByte (c : Char) : String :=
  let n := c.toNat % 128
  let names := ["nul", "soh", "stx", "etx", "eot", "enq", "ack", "bel", "bs", "ht", "nl", "vt",
    "ff", "cr", "so", "si", "dle", "dc1", "dc2", "dc3", "dc4", "nak", "syn", "etb", "can", "em",
    "sub", "esc", "fs", "gs", "rs", "us", "sp"]
  if n = 127 then "del" else (names[n]?).getD (String.singleton (Char.ofNat n))

def Dump.text (dump : Dump) (group : List Char) : String :=
  let n := group.reverse.foldl (fun n c => 256 * n + c.toNat) 0
  let zeros (digits : List Char) : String :=
    String.ofList (List.replicate (dump.width - digits.length) '0' ++ digits)
  match dump.form with
  | 'c' => shownByte (Char.ofNat n)
  | 'a' => namedByte (Char.ofNat n)
  | 'x' => zeros (Nat.toDigits 16 n)
  | 'o' => zeros (Nat.toDigits 8 n)
  | 'd' =>
    let bound := Nat.pow 256 dump.size
    if bound / 2 ≤ n then "-" ++ toString (bound - n) else toString n
  | _ => toString n

/-- Lists of so many characters each, the last one perhaps with fewer. -/
def groups (size : Nat) : Nat → List Char → List (List Char)
  | 0, _ | _, [] => []
  | fuel + 1, text => text.take size :: groups size fuel (text.drop size)

def Dump.line (dump : Dump) (most : Nat) (row : List Char) : String :=
  let filled (group : List Char) : List Char :=
    group ++ List.replicate (dump.size - group.length) '\x00'
  String.join ((groups dump.size row.length row).map fun group =>
    let gap := if most * dump.size < dump.width + dump.size + 1 then 1
      else most * dump.size - dump.width
    String.ofList (List.replicate gap ' ') ++ padLeft dump.width (dump.text (filled group)))

def dumps? (text : String) : Option (List Dump) :=
  let rec read : Nat → List Char → Option (List Dump)
    | 0, _ | _, [] => some []
    | fuel + 1, form :: rest =>
      if form = 'a' ∨ form = 'c' then (read fuel rest).map (⟨1, form⟩ :: ·)
      else if "doux".toList.contains form then
        let digits := rest.takeWhile Char.isDigit
        let named? : Option Nat := match rest.head? with
          | some 'C' => some 1
          | some 'S' => some 2
          | some 'I' => some 4
          | some 'L' => some 8
          | _ => none
        let rest := if named?.isSome then rest.drop 1 else rest.drop digits.length
        let size := named?.getD (((String.ofList digits).toNat?).getD 4)
        if [1, 2, 4, 8].contains size then (read fuel rest).map (⟨size, form⟩ :: ·) else none
      else none
  if text.isEmpty then none else read text.length text.toList

def askedDumps (options : List (String × String)) : Except String (List Dump) :=
  match options with
  | [] => .ok []
  | (key, value) :: rest => do
    let found ← match key with
      | "t" =>
        match dumps? value with
        | some found => .ok found
        | none => .error ("invalid type string " ++ Desk.quoted value)
      | "a" => .ok [⟨1, 'a'⟩]
      | "b" => .ok [⟨1, 'o'⟩]
      | "c" => .ok [⟨1, 'c'⟩]
      | "d" => .ok [⟨2, 'u'⟩]
      | "o" => .ok [⟨2, 'o'⟩]
      | "s" => .ok [⟨2, 'd'⟩]
      | "x" => .ok [⟨2, 'x'⟩]
      | "i" => .ok [⟨4, 'd'⟩]
      | _ => .ok []
    return found ++ (← askedDumps rest)

def offsetText (radix : Char) (n : Nat) : String :=
  let digits (base least : Nat) : String :=
    let digits := Nat.toDigits base n
    String.ofList (List.replicate (least - digits.length) '0' ++ digits)
  match radix with
  | 'n' => ""
  | 'd' => digits 10 7
  | 'x' => digits 16 6
  | _ => digits 8 7

/-- All lines; one that is as the one before is not repeated. -/
def dumpLines (dumps : List Dump) (radix : Char) (all : Bool) :
    Nat → Option (List Char) → Bool → List (List Char) → List String
  | offset, _, _, [] => if radix = 'n' then [] else [offsetText radix offset]
  | offset, before?, starred, row :: rows =>
    let next := offset + row.length
    if !all ∧ before? = some row ∧ !rows.isEmpty then
      (if starred then [] else ["*"]) ++ dumpLines dumps radix all next (some row) true rows
    else
      let perByte (dump : Dump) : Nat := (dump.width + dump.size) / dump.size
      let most := (dumps.map perByte).foldl max 0
      let lines := dumps.mapIdx fun i dump =>
        let title := offsetText radix offset
        (if i = 0 then title else String.ofList (List.replicate title.length ' '))
          ++ dump.line most row
      lines ++ dumpLines dumps radix all next (some row) false rows

def od : Program := .withOptions
    (flags "abcdosxi" ++ [needing 'A' "address-radix", needing 't' "format",
      needing 'N' "read-bytes", needing 'j' "skip-bytes", flag 'v' "output-duplicates",
      needing 'w' "width"]) fun arguments => do
  match askedDumps arguments.options with
  | .error text => Desk.complain text
  | .ok asked =>
    let dumps := if asked.isEmpty then [⟨2, 'o'⟩] else asked
    let radix := ((arguments.value? "A").bind fun text => text.toList.head?).getD 'o'
    let skipped := ((arguments.value? "j").bind count?).getD 0
    let width := ((arguments.value? "w").bind String.toNat?).getD 16
    let texts ← (sources arguments.operands).filterMapM fun path => do
      match ← Desk.content path with
      | .text text => pure (some text)
      | .unopened cause | .unread cause =>
        Desk.complain (path ++ ": " ++ cause.reason)
        pure none
    let text := (String.join texts).toList.drop skipped
    let text := match (arguments.value? "N").bind count? with
      | some count => text.take count
      | none => text
    let lines := dumpLines dumps radix (arguments.has "v") skipped none false
      (groups width text.length text)
    lines.forM fun line => Desk.print (line ++ "\n")

/-! ### Six bits -/

def sixBits : List Char :=
  "ABCDEFGHIJKLMNOPQRSTUVWXYZabcdefghijklmnopqrstuvwxyz0123456789+/".toList

def encoded (group : List Char) : List Char :=
  let n := (group ++ List.replicate (3 - group.length) '\x00').foldl
    (fun n c => 256 * n + c.toNat) 0
  let letter (power : Nat) : Char := (sixBits[n / power % 64]?).getD '='
  let letters := [letter 262144, letter 4096, letter 64, letter 1]
  letters.take (group.length + 1) ++ List.replicate (3 - group.length) '='

/-- The bytes of letters, and whether all is well with them. -/
def decoded : Nat → List Char → List Char × Bool
  | 0, _ | _, [] => ([], true)
  | fuel + 1, text =>
    let group := text.take 4
    let plain := group.takeWhile sixBits.contains
    let values := plain.filterMap sixBits.idxOf?
    let n := (values ++ List.replicate (4 - values.length) 0).foldl (fun n v => 64 * n + v) 0
    let bytes := [n / 65536 % 256, n / 256 % 256, n % 256].map Char.ofNat
    let found := bytes.take (plain.length - 1)
    if plain.length = 4 then
      let (more, sound) := decoded fuel (text.drop 4)
      (found ++ more, sound)
    else if group.length = 4 ∧ 2 ≤ plain.length ∧ (group.drop plain.length).all (· = '=') then
      let (more, sound) := decoded fuel (text.drop 4)
      (found ++ more, sound)
    else (found, false)

def base64 : Program := .withOptions
    [flag 'd' "decode", flag 'i' "ignore-garbage", needing 'w' "wrap"] fun arguments =>
  forEachText arguments.operands fun _ text => do
    if arguments.has "d" then
      let letters := text.toList.filter fun c =>
        c ≠ '\n' && (!arguments.has "i" || sixBits.contains c || c = '=')
      let (bytes, sound) := decoded (letters.length + 1) letters
      Desk.printChars bytes
      if !sound then Desk.complain "invalid input"
    else
      let letters := (groups 3 text.length text.toList).flatMap encoded
      let width := ((arguments.value? "w").bind String.toNat?).getD 76
      if width = 0 then Desk.printChars letters
      else
        Desk.printChars ((groups width letters.length letters).flatMap fun line => line ++ ['\n'])

/-! ### Short lines -/

/-- A line in pieces of a width, parted behind blanks where that is asked for. -/
def folded (width : Nat) (atBlanks : Bool) : Nat → List Char → List Char
  | 0, text => text
  | fuel + 1, text =>
    if text.length ≤ width then text
    else
      let piece := text.take width
      let kept := (piece.reverse.dropWhile (· ≠ ' ')).reverse
      let piece := if atBlanks ∧ kept ≠ [] then kept else piece
      piece ++ '\n' :: folded width atBlanks fuel (text.drop piece.length)

def fold : Program := .withOptions [needing 'w' "width", flag 's' "spaces", flag 'b' "bytes"]
    fun arguments =>
  let width := max 1 (((arguments.value? "w").bind String.toNat?).getD 80)
  forEachText arguments.operands fun _ text =>
    (linesOf '\n' text.toList).forM fun line => do
      let plain := bare '\n' line
      Desk.printChars (folded width (arguments.has "s") plain.length plain
        ++ line.drop plain.length)

/-! ### Blocks -/

/-- The value of an operand with a name and a sign of equality. -/
def setting? (operands : List String) (name : String) : Option String :=
  (operands.reverse.find? fun operand => operand.startsWith (name ++ "=")).map fun operand =>
    (operand.drop (name.length + 1)).toString

def dd : Program := fun arguments => do
  let number (name : String) : Option Nat := (setting? arguments name).bind count?
  let size := ((number "bs").orElse fun () => number "ibs").getD 512
  let skipped := (number "skip").getD 0 * size
  let limit := ((number "count").map fun count => skipped + count * size).getD System.endless
  let path := (setting? arguments "if").getD "-"
  match ← Desk.contentUpTo limit path with
  | .unopened cause =>
    Desk.complain ("failed to open " ++ Desk.quoted path ++ ": " ++ cause.reason)
  | .unread cause =>
    Desk.complain ("error reading " ++ Desk.quoted path ++ ": " ++ cause.reason)
  | .text text =>
    let taken := (text.toList.take limit).drop skipped
    let surplus := text.length - limit
    if path = "-" then Desk.giveBack surplus
    let problem? ← match setting? arguments "of" with
      | some target => Desk.store target (String.ofList taken) false
      | none =>
        Desk.printChars taken
        pure none
    match problem? with
    | some cause =>
      let target := (setting? arguments "of").getD ""
      Desk.complain ("failed to open " ++ Desk.quoted target ++ ": " ++ cause.reason)
    | none =>
      let full := taken.length / size
      let part := if taken.length % size = 0 then 0 else 1
      let records := toString full ++ "+" ++ toString part ++ " records "
      match setting? arguments "status" with
      | some "none" => pure ()
      | _ =>
        Desk.note (records ++ "in")
        Desk.note (records ++ "out")

end TraceWeave.Shell.Program
