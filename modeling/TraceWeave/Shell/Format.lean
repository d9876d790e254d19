import TraceWeave.Decimal.Fixed
import TraceWeave.Decimal.Nearest
import TraceWeave.Shell.Arithmetic
import TraceWeave.Shell.Escape

/-! Printing after a format, in which each directive takes an argument and escapes stand for
characters. -/

namespace TraceWeave.Shell.Format

structure Style where
  flags : List Char
  width : Nat
  precision? : Option Nat

def Style.has (style : Style) (flag : Char) : Bool := style.flags.contains flag

/-- A text in its width, with zeros behind a sign if `zeros`. -/
def Style.fill (style : Style) (zeros : Bool) (sign text : List Char) : List Char :=
  let missing := style.width - (sign.length + text.length)
  if style.has '-' then sign ++ text ++ List.replicate missing ' '
  else if zeros ∧ style.has '0' then sign ++ List.replicate missing '0' ++ text
  else List.replicate missing ' ' ++ sign ++ text

def Style.text (style : Style) (text : List Char) : List Char :=
  style.fill false [] ((style.precision?.map text.take).getD text)

def Style.sign (style : Style) (negative : Bool) : List Char :=
  if negative then ['-']
  else if style.has '+' then ['+']
  else if style.has ' ' then [' ']
  else []

def Style.whole (style : Style) (kind : Char) (n : Int) : List Char :=
  let base := if kind = 'o' then 8 else if kind = 'x' ∨ kind = 'X' then 16 else 10
  let signed := kind = 'd' ∨ kind = 'i'
  let digits := if n = 0 ∧ style.precision? = some 0 then [] else Nat.toDigits base n.natAbs
  let least := (style.precision?.getD 0) - digits.length
  let digits := List.replicate least '0' ++ digits
  let digits := if style.has '#' ∧ kind = 'o' ∧ digits.head? ≠ some '0' then '0' :: digits
    else digits
  let mark := if style.has '#' ∧ base = 16 ∧ n ≠ 0 then ['0', kind] else []
  let sign := if signed then style.sign (n < 0) else mark
  let digits := if kind = 'X' then digits.map Char.toUpper else digits
  style.fill style.precision?.isNone sign digits

def Style.real (style : Style) (kind : Char) (x : Binary64) : List Char :=
  let precision := style.precision?.getD 6
  let (negative, finite, text) : Bool × Bool × List Char := match x with
    | .finite negative m =>
      let text := match kind.toLower with
        | 'e' => m.scientific precision (style.has '#')
        | 'g' => m.general precision (style.has '#')
        | _ => m.fixed precision (style.has '#')
      (negative, true, text)
    | .infinite negative => (negative, false, "inf".toList)
    | .nan negative => (negative, false, "nan".toList)
  let text := if kind.isUpper then text.map Char.toUpper else text
  style.fill finite (style.sign negative) text

/-! ### Reading arguments -/

inductive Reading where
  | whole
  | partly
  | none
  | beyond

/-- The number that an argument begins, and how much of it that is. -/
def integer (signed : Bool) (argument : String) : Int × Reading :=
  let text := argument.toList.dropWhile Arithmetic.isBlank
  let (negative, digits) := Numeral.splitSign text
  if argument.isEmpty then (0, .whole)
  else if !digits.head?.any Char.isDigit then (0, .none)
  else
    let (n, rest) := Arithmetic.natural digits
    let value : Int := if negative then -n else n
    let (low, high) : Int × Int :=
      if signed then (-Arithmetic.largest - 1, Arithmetic.largest)
      else (-(2 * Arithmetic.largest + 1), 2 * Arithmetic.largest + 1)
    let kept := if value < low then (if signed then low else high) else min value high
    let shown := if signed ∨ 0 ≤ kept then kept else kept + (2 * Arithmetic.largest + 2)
    let reading : Reading :=
      if !rest.isEmpty then .partly else if value < low ∨ high < value then .beyond else .whole
    (shown, reading)

/-- The longest beginning of a text that is a number. -/
def real (argument : String) : Binary64 × Reading :=
  let text := argument.toList.dropWhile Arithmetic.isBlank
  let counts := (List.range (text.length + 1)).reverse
  let found := counts.findSome? fun count =>
    (Binary64.read? (text.take count)).map fun value => (value, count)
  match found with
  | some (value, count) => (value, if count = text.length then .whole else .partly)
  | none => (Binary64.zero, if argument.isEmpty then .whole else .none)

def complaint? (argument : String) : Reading → Option String
  | .whole => none
  | .partly => some (argument ++ ": not completely converted")
  | .none => some (argument ++ ": expected numeric value")
  | .beyond => some (argument ++ ": Numerical result out of range")

/-! ### Using a format -/

structure Page where
  /-- What was printed, the last first. -/
  printed : List Char
  arguments : List String
  /-- Whether an argument was asked for. -/
  asked : Bool
  stopped : Bool
  complaints : List String
  /-- The directive that cannot be used, if one was met. -/
  invalid? : Option String

namespace Page

def add (page : Page) (text : List Char) : Page :=
  { page with printed := text.reverse ++ page.printed }

def takeArgument (page : Page) : String × Page :=
  (page.arguments.headD "",
    { page with arguments := page.arguments.drop 1, asked := true })

/-- A whole number from the arguments. A quote in front of a character stands for its code. -/
def takeInteger (page : Page) (signed : Bool) : Int × Page :=
  let (argument, page) := page.takeArgument
  match argument.toList with
  | '\'' :: rest | '"' :: rest => (((rest.head?.map Char.toNat).getD 0 : Nat), page)
  | _ =>
    let (n, reading) := integer signed argument
    (n, { page with complaints := page.complaints ++ (complaint? argument reading).toList })

def takeReal (page : Page) : Binary64 × Page :=
  let (argument, page) := page.takeArgument
  match argument.toList with
  | '\'' :: rest | '"' :: rest =>
    (Binary64.ofInt (((rest.head?.map Char.toNat).getD 0 : Nat) : Int), page)
  | _ =>
    let (x, reading) := real argument
    (x, { page with complaints := page.complaints ++ (complaint? argument reading).toList })

/-- A number of digits, or a star for one among the arguments. -/
def takeCount (page : Page) (format : List Char) : Int × List Char × Page :=
  match format with
  | '*' :: rest =>
    let (n, page) := page.takeInteger true
    (n, rest, page)
  | _ =>
    let digits := format.takeWhile Char.isDigit
    (((String.ofList digits).toNat?.getD 0 : Nat), format.drop digits.length, page)

/-- Uses a directive that begins after a percent sign, and gives back what follows it. -/
def directive (page : Page) (format : List Char) : Page × List Char :=
  let flags := format.takeWhile "#-+ 0".toList.contains
  let (width, rest, page) := page.takeCount (format.drop flags.length)
  let (precision?, rest, page) : Option Int × List Char × Page := match rest with
    | '.' :: rest =>
      let (precision, rest, page) := page.takeCount rest
      (if precision < 0 then none else some precision, rest, page)
    | _ => (none, rest, page)
  let flags := if width < 0 then '-' :: flags else flags
  let style : Style := ⟨flags, width.natAbs, precision?.map Int.toNat⟩
  match rest with
  | [] => ({ page with invalid? := some (String.ofList ('%' :: format)) }, [])
  | kind :: rest =>
    if kind = 's' then
      let (argument, page) := page.takeArgument
      (page.add (style.text argument.toList), rest)
    else if kind = 'c' then
      let (argument, page) := page.takeArgument
      (page.add (style.fill false [] [argument.toList.headD '\x00']), rest)
    else if kind = 'b' then
      let (argument, page) := page.takeArgument
      let (text, stopped) := Escape.read argument.toList
      ({ page.add (style.text text) with stopped }, rest)
    else if "diouxX".toList.contains kind then
      let (n, page) := page.takeInteger (kind = 'd' || kind = 'i')
      (page.add (style.whole kind n), rest)
    else if "eEfFgG".toList.contains kind then
      let (x, page) := page.takeReal
      (page.add (style.real kind x), rest)
    else
      let length := format.length - rest.length
      ({ page with invalid? := some (String.ofList ('%' :: format.take length)) }, [])

def useFrom : Nat → Page → List Char → Page
  | 0, page, _ | _, page, [] => page
  | fuel + 1, page, c :: rest =>
    if page.stopped then page
    else if c = '\\' then
      let (found, rest) := Escape.char rest
      useFrom fuel (page.add [found]) rest
    else if c = '%' then
      match rest with
      | '%' :: rest => useFrom fuel (page.add ['%']) rest
      | _ =>
        let (page, rest) := page.directive rest
        useFrom fuel page rest
    else useFrom fuel (page.add [c]) rest

def useAll (format : List Char) : Nat → Page → Page
  | 0, page => page
  | fuel + 1, page =>
    let page := useFrom (format.length + 1) page format
    if page.stopped ∨ page.arguments.isEmpty ∨ ¬ page.asked ∨ page.invalid?.isSome then page
    else useAll format fuel page

def ofFormat (format : String) (arguments : List String) : Page :=
  useAll format.toList (arguments.length + 1) ⟨[], arguments, false, false, [], none⟩

def text (page : Page) : String := String.ofList page.printed.reverse

end Page

end TraceWeave.Shell.Format
