import TraceWeave.Shell.Arithmetic
import TraceWeave.Shell.Stream

/-! Conditions on texts, numbers and files. -/

namespace TraceWeave.Shell.Test

/-- What the conditions of a call are about besides its arguments. -/
structure Subject where
  files : Files
  descriptors : Descriptors

def unarySigns : List String :=
  ["-r", "-w", "-x", "-e", "-f", "-d", "-c", "-b", "-p", "-u", "-g", "-k", "-s", "-t", "-z", "-n",
    "-h", "-O", "-G", "-L", "-S"]

def binarySigns : List String :=
  ["=", "!=", "<", ">", "-eq", "-ne", "-ge", "-gt", "-le", "-lt", "-nt", "-ot", "-ef"]

inductive Role where
  | ending
  | operand
  | unary
  | binary
  | negation
  | conjunction
  | disjunction
  | opening
  | closing
  deriving DecidableEq

/-- The role of the first argument. A sign that has nothing to work on is an operand. -/
def role : List String → Role
  | [] => .ending
  | text :: rest =>
    if unarySigns.contains text then
      match rest with
      | [] => .operand
      | [_] => .unary
      | next :: _ => if binarySigns.contains next then .operand else .unary
    else if binarySigns.contains text then .binary
    else if text = "!" then .negation
    else if text = "-a" then .conjunction
    else if text = "-o" then .disjunction
    else if text = "(" then (if rest.isEmpty then .operand else .opening)
    else if text = ")" then .closing
    else .operand

/-- A whole number in decimal, with blanks around it at will. -/
def number (text : String) : Except String Int :=
  let isBlank := Arithmetic.isBlank
  let bare := ((text.toList.dropWhile isBlank).reverse.dropWhile isBlank).reverse
  let (negative, digits) : Bool × List Char := match bare with
    | '-' :: rest => (true, rest)
    | '+' :: rest => (false, rest)
    | rest => (false, rest)
  match (String.ofList digits).toNat? with
  | some n =>
    let value : Int := if negative then -n else n
    let within := decide (-Arithmetic.largest - 1 ≤ value ∧ value ≤ Arithmetic.largest)
    if digits.all Char.isDigit && within then .ok value
    else .error ("Illegal number: " ++ text)
  | none => .error ("Illegal number: " ++ text)

def fileHolds (files : Files) (sign : String) (path : String) : Bool :=
  match files.find (Raw.text path) with
  | .error _ => false
  | .ok (_, entry) =>
    match sign, entry with
    | "-e", _ | "-r", _ | "-O", _ | "-G", _ => true
    | "-w", .program _ => true
    | "-w", _ => true
    | "-x", .file _ executable => executable
    | "-x", .device _ => false
    | "-x", _ => true
    | "-f", .file .. | "-f", .program _ => true
    | "-d", .directory => true
    | "-c", .device _ => true
    | "-s", .file content _ => content.size != 0
    | "-s", .device _ => false
    | "-s", _ => true
    | _, _ => false

def unary (subject : Subject) (sign operand : String) : Except String Bool :=
  match sign with
  | "-z" => .ok operand.isEmpty
  | "-n" => .ok (!operand.isEmpty)
  | "-t" => (number operand).map fun _ => false
  | _ => .ok (fileHolds subject.files sign operand)

def binary (subject : Subject) (left sign right : String) : Except String Bool :=
  let numbers (holds : Int → Int → Bool) : Except String Bool := do
    return holds (← number left) (← number right)
  match sign with
  | "=" => .ok (left == right)
  | "!=" => .ok (left != right)
  | "<" => .ok (decide (left < right))
  | ">" => .ok (decide (right < left))
  | "-eq" => numbers fun a b => a == b
  | "-ne" => numbers fun a b => a != b
  | "-ge" => numbers fun a b => b ≤ a
  | "-gt" => numbers fun a b => b < a
  | "-le" => numbers fun a b => a ≤ b
  | "-lt" => numbers fun a b => a < b
  | "-ef" =>
    match subject.files.find (Raw.text left), subject.files.find (Raw.text right) with
    | .ok (a, _), .ok (b, _) => .ok (a == b)
    | _, _ => .ok false
  | _ => .ok false

/-- A value and the arguments from the last one that was used on. -/
abbrev Found := Bool × List String

/-- A condition that stands on its own. `inner` reads one between parentheses. -/
def single (subject : Subject) (inner : List String → Except String Found)
    (arguments : List String) : Except String Found := do
  match role arguments, arguments with
  | .ending, _ => .ok (false, arguments)
  | .opening, _ :: rest =>
    if role rest = .closing then .ok (false, rest)
    else
      let (value, last) ← inner rest
      if role (last.drop 1) = .closing then .ok (value, last.drop 1)
      else .error "closing paren expected"
  | .unary, sign :: operand :: rest => .ok (← unary subject sign operand, operand :: rest)
  | _, left :: sign :: rest =>
    if role (sign :: rest) = .binary then
      match rest with
      | right :: _ => .ok (← binary subject left sign right, rest)
      | [] => .error (sign ++ ": argument expected")
    else .ok (!left.isEmpty, arguments)
  | _, [left] => .ok (!left.isEmpty, arguments)
  | _, [] => .ok (false, [])

def negatable (subject : Subject) (inner : List String → Except String Found) :
    Nat → List String → Except String Found
  | 0, arguments => single subject inner arguments
  | fuel + 1, arguments =>
    if role arguments = .negation then
      match role (arguments.drop 1) with
      | .ending => .ok (true, arguments)
      | _ => do
        let (value, last) ← negatable subject inner fuel (arguments.drop 1)
        .ok (!value, last)
    else single subject inner arguments

/-- What conditions amount to that a sign joins, each read by `part`. -/
def joined (sign : Role) (join : Bool → Bool → Bool)
    (part : List String → Except String Found) : Nat → List String → Except String Found
  | 0, arguments => part arguments
  | fuel + 1, arguments => do
    let (value, last) ← part arguments
    if role (last.drop 1) = sign then
      let (more, last) ← joined sign join part fuel (last.drop 2)
      .ok (join value more, last)
    else .ok (value, last)

def whole (subject : Subject) : Nat → List String → Except String Found
  | 0, arguments => .ok (false, arguments)
  | fuel + 1, arguments =>
    let parts := negatable subject (whole subject fuel) fuel
    joined .disjunction (· || ·) (joined .conjunction (· && ·) parts fuel) fuel arguments

def complete (found : Found) : Except String Bool :=
  match found with
  | (_, text :: _ :: _) => .error (text ++ ": unexpected operator")
  | (value, _) => .ok value

/-- The value of a condition. Three arguments around a sign are about that sign, whatever they
look like. -/
def valueFrom (subject : Subject) : Nat → List String → Except String Bool
  | 0, _ => .ok false
  | fuel + 1, arguments => do
    let read (arguments : List String) : Except String Bool := do
      complete (← whole subject (arguments.length + 2) arguments)
    let bracketed : Except String Bool := do
      match arguments.head? with
      | some "(" =>
        if arguments.getLast? = some ")" then read ((arguments.drop 1).dropLast)
        else read arguments
      | some "!" => return !(← valueFrom subject fuel (arguments.drop 1))
      | _ => read arguments
    match arguments with
    | [] => .ok false
    | [left, sign, right] =>
      if binarySigns.contains sign then binary subject left sign right else bracketed
    | [_, _, _, _] => bracketed
    | _ => read arguments

def value (subject : Subject) (arguments : List String) : Except String Bool :=
  valueFrom subject (arguments.length + 1) arguments

end TraceWeave.Shell.Test
