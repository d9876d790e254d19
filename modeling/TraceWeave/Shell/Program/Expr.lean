import TraceWeave.Shell.Program.Reading
import TraceWeave.Text.Regex.Reader

/-! The program that computes an expression whose parts are its arguments. Values are texts, which
count as whole numbers where they look like some. -/

namespace TraceWeave.Shell.Program.Expr

open TraceWeave.Text (Regex)

structure Problem where
  text : String
  status : Nat

abbrev Reader := EStateM Problem (List String)

def fail {α : Type} (text : String) : Reader α := throw ⟨text, 2⟩

def integer? (text : String) : Option Int :=
  match text.toList with
  | '-' :: digits =>
    if !digits.isEmpty ∧ digits.all Char.isDigit then
      (String.ofList digits).toNat?.map fun n => -(n : Int)
    else none
  | digits =>
    if !digits.isEmpty ∧ digits.all Char.isDigit then text.toNat?.map Int.ofNat else none

def isNull (text : String) : Bool := text.isEmpty || integer? text == some 0

def integer (text : String) : Reader Int :=
  match integer? text with
  | some n => pure n
  | none => fail "non-integer argument"

def take (signs : List String) : Reader (Option String) := fun arguments =>
  match arguments with
  | first :: rest => if signs.contains first then .ok (some first) rest else .ok none arguments
  | [] => .ok none []

/-- What a pattern finds at the start of a text: its first group, or else the length. -/
def matched (text pattern : String) : Reader String :=
  match Regex.read false ('^' :: pattern.toList) with
  | .error why => throw ⟨why, 2⟩
  | .ok regex =>
    let chars := text.toList
    let grouped := ((pattern.splitOn "\\(").length : Nat) != 1
    match regex.search? false chars 0 with
    | some found =>
      if grouped then pure (String.ofList (found.group chars 1))
      else pure (toString (found.stop - found.start))
    | none => pure (if grouped then "" else "0")

def operate (sign a b : String) : Reader String := do
  match sign with
  | ":" => matched a b
  | "|" => pure (if !isNull a then a else if !isNull b then b else "0")
  | "&" => pure (if isNull a || isNull b then "0" else a)
  | "+" => return toString ((← integer a) + (← integer b))
  | "-" => return toString ((← integer a) - (← integer b))
  | "*" => return toString ((← integer a) * (← integer b))
  | "/" | "%" =>
    let m ← integer a
    let n ← integer b
    if n = 0 then fail "division by zero"
    else pure (toString (if sign = "/" then Int.tdiv m n else Int.tmod m n))
  | _ =>
    let order := match integer? a, integer? b with
      | some m, some n => compare m n
      | _, _ => compare a b
    let holds : Bool := match sign with
      | "<" => order == .lt
      | "<=" => order != .gt
      | "=" | "==" => order == .eq
      | "!=" => order != .eq
      | ">=" => order != .lt
      | _ => order == .gt
    pure (if holds then "1" else "0")

def levels : List (List String) :=
  [["|"], ["&"], ["<", "<=", "=", "==", "!=", ">=", ">"], ["+", "-"], ["*", "/", "%"], [":"]]

section
variable (inner : Reader String)

def demand (before : String) : Reader String := fun arguments =>
  match arguments with
  | first :: rest => .ok first rest
  | [] => .error ⟨"syntax error: missing argument after " ++ Desk.quoted before, 2⟩ []

def primary (before : String) : Nat → Reader String
  | 0 => fail "syntax error"
  | fuel + 1 => do
    let first ← demand before
    match first with
    | "(" =>
      let value ← inner
      match ← take [")"] with
      | some _ => pure value
      | none =>
        match ← get with
        | [] => fail ("syntax error: expecting ')' after " ++ Desk.quoted value)
        | next :: _ => fail ("syntax error: expecting ')' instead of " ++ Desk.quoted next)
    | ")" => fail "syntax error: unexpected ')'"
    | "+" => demand "+"
    | "length" => return toString (← primary "length" fuel).length
    | "match" =>
      let text ← primary "match" fuel
      matched text (← primary text fuel)
    | "index" =>
      let text ← primary "index" fuel
      let chars := (← primary text fuel).toList
      let before := text.toList.takeWhile (!chars.contains ·)
      pure (toString (if before.length < text.length then before.length + 1 else 0))
    | "substr" =>
      let text ← primary "substr" fuel
      let start ← primary text fuel
      let length ← primary start fuel
      match integer? start, integer? length with
      | some s, some n =>
        if s ≤ 0 ∨ n ≤ 0 then pure ""
        else pure (String.ofList ((text.toList.drop (s.toNat - 1)).take n.toNat))
      | _, _ => pure ""
    | text => pure text

def chain (operand : String → Reader String) (signs : List String) : Nat → String → Reader String
  | 0, a => pure a
  | fuel + 1, a => do
    match ← take signs with
    | none => pure a
    | some sign =>
      let b ← operand sign
      chain operand signs fuel (← operate sign a b)

def binary (fuel : Nat) (before : String) : List (List String) → Reader String
  | [] => primary inner before fuel
  | signs :: tighter => do
    let first ← binary fuel before tighter
    chain (fun sign => binary fuel sign tighter) signs fuel first

end

def whole : Nat → Reader String
  | 0 => fail "syntax error"
  | depth + 1 => binary (whole depth) (depth + 1) "(" levels

def run : Program := fun arguments => do
  modify fun desk => { desk with trouble := 2 }
  if arguments.isEmpty then Desk.misuse "missing operand"
  else
    match whole (arguments.length + 1) arguments with
    | .ok value [] =>
      Desk.print (value ++ "\n")
      Desk.setStatus (if isNull value then 1 else 0)
    | .ok _ (next :: _) => Desk.complain ("syntax error: unexpected argument " ++ Desk.quoted next)
    | .error problem _ => Desk.complain problem.text

end TraceWeave.Shell.Program.Expr
