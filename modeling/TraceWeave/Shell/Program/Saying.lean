import TraceWeave.Shell.Format
import TraceWeave.Shell.Program.Showing
import TraceWeave.Shell.Test

/-! Programs that say what they are told to, and small facts about the system. -/

namespace TraceWeave.Shell.Program

/-! ### Texts -/

/-- A text in which octal escapes, which begin with some mark, stand for hexadecimal ones. -/
def withoutHex (mark : List Char) : Nat → List Char → List Char
  | 0, _ | _, [] => []
  | fuel + 1, '\\' :: 'x' :: rest =>
    let digits := (rest.take 2).takeWhile fun d => (Arithmetic.digit? 16 d).isSome
    if digits.isEmpty then '\\' :: 'x' :: withoutHex mark fuel rest
    else
      let code := digits.foldl (fun n d => 16 * n + (Arithmetic.digit? 16 d).getD 0) 0
      let octal := Nat.toDigits 8 code
      mark ++ List.replicate (3 - octal.length) '0' ++ octal
        ++ withoutHex mark fuel (rest.drop digits.length)
  | fuel + 1, '\\' :: c :: rest => '\\' :: c :: withoutHex mark fuel rest
  | fuel + 1, c :: rest => c :: withoutHex mark fuel rest

/-- Texts with blanks between them. Escapes count only where that is asked for. -/
def echo : Program := fun arguments => do
  let isOption (argument : String) : Bool :=
    match argument.toList with
    | '-' :: c :: letters => (c :: letters).all "neE".toList.contains
    | _ => false
  let options := (arguments.takeWhile isOption).flatMap fun argument => argument.toList.drop 1
  let words := arguments.dropWhile isOption
  let ending := if options.contains 'n' then [] else ['\n']
  let text := (" ".intercalate words).toList
  match options.reverse.find? fun c => c = 'e' ∨ c = 'E' with
  | some 'e' =>
    let (text, stopped) := Escape.read (withoutHex ['\\', '0'] (text.length + 1) text)
    Desk.printChars (text ++ if stopped then [] else ending)
  | _ => Desk.printChars (text ++ ending)

def printf : Program := fun arguments => do
  match (if arguments.head? = some "--" then arguments.drop 1 else arguments) with
  | [] => Desk.misuse "missing operand"
  | format :: arguments =>
    let bare := withoutHex ['\\'] (format.length + 1) format.toList
    let page := Format.Page.ofFormat (String.ofList bare) arguments
    page.complaints.forM Desk.complain
    Desk.print page.text
    page.invalid?.forM fun directive =>
      Desk.complain (directive ++ ": invalid conversion specification")

def test (name : String) : Program := .troubled 2 fun arguments => do
  let closed := arguments.getLast? = some "]"
  if name = "[" ∧ ¬ closed then Desk.complain "missing ']'"
  else
    let desk ← get
    let arguments := if name = "[" then arguments.dropLast else arguments
    match Test.value ⟨desk.system.files, desk.descriptors⟩ arguments with
    | .ok holds => Desk.setStatus (if holds then 0 else 1)
    | .error text => Desk.complain text

/-! ### Rows of numbers -/

/-- A number as it is written: with some places behind the point. -/
structure Rung where
  scaled : Int
  places : Nat

def Rung.ofText? (text : String) : Option Rung :=
  let (negative, digits) := Numeral.splitSign text.toList
  let whole := digits.takeWhile Char.isDigit
  let rest := digits.drop whole.length
  let fraction := match rest with
    | '.' :: fraction => fraction
    | _ => []
  let sound := (rest.isEmpty || rest.head? = some '.') && fraction.all Char.isDigit
    && !(whole.isEmpty && fraction.isEmpty)
  if sound then
    let n : Int := Numeral.ofDigits (whole ++ fraction)
    some ⟨if negative then -n else n, fraction.length⟩
  else none

def Rung.at (rung : Rung) (places : Nat) : Int :=
  rung.scaled * ((Nat.pow 10 (places - rung.places) : Nat) : Int)

/-- The text of a number with some places, filled up with zeros. -/
def rungText (n : Int) (places width : Nat) : String :=
  let digits := Nat.toDigits 10 n.natAbs
  let digits := List.replicate (places + 1 - digits.length) '0' ++ digits
  let whole := digits.take (digits.length - places)
  let text := if places = 0 then whole else whole ++ '.' :: digits.drop whole.length
  let sign := if n < 0 then ['-'] else []
  String.ofList (sign ++ List.replicate (width - sign.length - text.length) '0' ++ text)

def climb (last step : Int) : Nat → Int → List Int
  | 0, _ => []
  | fuel + 1, n =>
    if (0 < step ∧ last < n) ∨ (step < 0 ∧ n < last) then []
    else n :: climb last step fuel (n + step)

def seqForms : List OptionForm :=
  [needing 's' "separator", needing 'f' "format", flag 'w' "equal-width"]

/-- Negative numbers, which look like options, stand behind a mark that ends these. -/
def guarded : List String → List String
  | [] => []
  | text :: rest =>
    match text.toList with
    | '-' :: c :: _ => if c.isDigit ∨ c = '.' then "--" :: text :: rest else text :: guarded rest
    | _ => if (Rung.ofText? text).isSome then "--" :: text :: rest else text :: guarded rest

def seq : Program := fun given => do
  match Arguments.read seqForms true (guarded given) with
  | .error text => Desk.misuse text
  | .ok arguments =>
    match arguments.operands.find? fun text => (Rung.ofText? text).isNone with
    | some text => Desk.misuse ("invalid floating point argument: " ++ Desk.quoted text)
    | none =>
      let one : Rung := ⟨1, 0⟩
      let run (first step last : Rung) (stepText : String) : StateM Desk Unit := do
        if step.scaled = 0 then
          Desk.misuse ("invalid Zero increment value: " ++ Desk.quoted stepText)
        else
          let places := max first.places step.places
          let finest := max places last.places
          let (first', step', last') := (first.at finest, step.at finest, last.at finest)
          let coarser : Int := (Nat.pow 10 (finest - places) : Nat)
          let numbers := climb last' step' System.endless first'
          let plain := numbers.map fun n => rungText (n / coarser) places 0
          let width := if arguments.has "w" then (plain.map String.length).foldl max 0 else 0
          let shown (n : Int) : String :=
            let text := rungText (n / coarser) places width
            match arguments.value? "f" with
            | some format => (Format.Page.ofFormat format [text]).text
            | none => text
          let separator := (arguments.value? "s").getD "\n"
          if numbers.isEmpty then pure ()
          else Desk.print (separator.intercalate (numbers.map shown) ++ "\n")
      match arguments.operands, arguments.operands.filterMap Rung.ofText? with
      | [], _ => Desk.misuse "missing operand"
      | _, [last] => run one one last "1"
      | _, [first, last] => run first one last "1"
      | [_, text, _], [first, step, last] => run first step last text
      | operands, _ =>
        Desk.misuse ("extra operand " ++ Desk.quoted ((operands[3]?).getD ""))

/-! ### The system -/

def printenv : Program := .withOptions [flag '0' "null"] fun arguments => do
  let environment := (← get).environment
  let ending := if arguments.has "0" then "\x00" else "\n"
  if arguments.operands.isEmpty then
    environment.forM fun (name, value) => Desk.print (name ++ "=" ++ value ++ ending)
  else
    arguments.operands.forM fun name => do
      match environment.lookup name with
      | some value => Desk.print (value ++ ending)
      | none => Desk.setStatus 1

def saying (text : String) : Program := fun _ => Desk.print (text ++ "\n")

def id : Program := .withOptions (flags "ugGnr") fun arguments => do
  let number := if arguments.has "n" then "root" else "0"
  if ["u", "g", "G"].any arguments.has then Desk.print (number ++ "\n")
  else Desk.print "uid=0(root) gid=0(root) groups=0(root)\n"

def tty : Program := fun _ => do
  Desk.print "not a tty\n"
  Desk.setStatus 1

def isInterval (text : String) : Bool :=
  let units := "smhd".toList
  let number := if text.toList.getLast?.any units.contains then text.toList.dropLast
    else text.toList
  text = "infinity" || text = "inf" || (Rung.ofText? (String.ofList number)).any (0 ≤ ·.scaled)

def sleep : Program := .withOptions [] fun arguments => do
  match arguments.operands, arguments.operands.find? (!isInterval ·) with
  | [], _ => Desk.misuse "missing operand"
  | _, some text => Desk.misuse ("invalid time interval " ++ Desk.quoted text)
  | _, none => pure ()

def searchPaths (environment : List (String × String)) : List String :=
  ((environment.lookup "PATH").getD "/usr/local/bin:/usr/bin:/bin").splitOn ":"

def isRunnable (files : Files) (path : String) : Bool :=
  match files.find (Raw.text path) with
  | .ok (_, .file _ executable) => executable
  | .ok (_, .program _) => true
  | _ => false

def which : Program := .withOptions [flag 'a' "", flag 's' ""] fun arguments => do
  let desk ← get
  arguments.operands.forM fun name => do
    let paths := if name.contains '/' then [name]
      else (searchPaths desk.environment).map fun directory => below directory name
    match paths.filter (isRunnable desk.system.files) with
    | [] => Desk.setStatus 1
    | path :: more =>
      let shown := if arguments.has "a" then path :: more else [path]
      shown.forM fun path => Desk.print (path ++ "\n")

def mktemp : Program := .withOptions
    [flag 'd' "directory", flag 'u' "dry-run", flag 'q' "quiet", needing 'p' "tmpdir", flag 't' ""]
    fun arguments => do
  let template := arguments.operands.headD "tmp.XXXXXXXXXX"
  let marks := (template.toList.reverse.takeWhile (· = 'X')).length
  if marks < 3 then Desk.complain ("too few X's in template " ++ Desk.quoted template)
  else
    let directory? := match arguments.value? "p", arguments.operands with
      | some directory, _ => some directory
      | none, [] => some "/tmp"
      | none, _ => if arguments.has "t" then some "/tmp" else none
    let stem := String.ofList (template.toList.take (template.length - marks))
    let files := (← get).system.files
    let path (n : Nat) : String :=
      let digits := toString n
      let name := stem ++ String.ofList (List.replicate (marks - digits.length) 'a') ++ digits
      (directory?.map (below · name)).getD name
    let free? := (List.range 1000).find? fun n => !(files.find (Raw.text (path n))).isOk
    let path := path (free?.getD 0)
    let problem? ←
      if arguments.has "u" then pure none
      else if arguments.has "d" then Desk.change (·.makeDirectory (Raw.text path))
      else Desk.store path "" false
    match problem? with
    | none => Desk.print (path ++ "\n")
    | some cause =>
      let what := if arguments.has "d" then "directory" else "file"
      Desk.complain ("failed to create " ++ what ++ " via template "
        ++ Desk.quoted ((directory?.map (below · template)).getD template) ++ ": " ++ cause.reason)

end TraceWeave.Shell.Program
