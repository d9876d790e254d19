/-! Expressions of a script: whole numbers of 64 bits that wrap, variables and assignments.

An expression is computed while it is read. What a condition or a logical operator leaves out is
read all the same, but nothing in it counts. -/

namespace TraceWeave.Shell.Arithmetic

inductive Problem where
  | expecting (what : String)
  | divisionByZero
  /-- A variable that holds no number. -/
  | illegal (text : String)
  deriving DecidableEq

inductive Lexeme where
  | number (value : Int64)
  | name (text : String)
  | sign (text : String)
  | foreign
  deriving DecidableEq

/-- The signs, longer ones before their beginnings. -/
def signs : List String :=
  ["<<=", ">>=", "<<", ">>", "<=", ">=", "==", "!=", "&&", "||", "+=", "-=", "*=", "/=", "%=",
    "&=", "|=", "^=", "+", "-", "*", "/", "%", "<", ">", "=", "!", "~", "&", "|", "^", "?", ":",
    "(", ")"]

def isBlank (c : Char) : Bool := c = ' ' || (9 ≤ c.toNat && c.toNat ≤ 13)

def digit? (base : Nat) (c : Char) : Option Nat :=
  let value :=
    if c.isDigit then c.toNat - '0'.toNat
    else if 'a' ≤ c.toLower ∧ c.toLower ≤ 'z' then c.toLower.toNat - 'a'.toNat + 10
    else base
  if value < base then some value else none

/-- The number that some digits begin, kept within 64 bits, and what follows it. A zero in front
stands for base 8, with an `x` for base 16. -/
def natural (text : List Char) : Nat × List Char :=
  let of (base : Nat) (digits : List Char) : Nat × List Char :=
    let taken := digits.takeWhile fun c => (digit? base c).isSome
    (taken.foldl (fun n c => base * n + (digit? base c).getD 0) 0, digits.drop taken.length)
  match text with
  | '0' :: x :: d :: rest =>
    if (x = 'x' ∨ x = 'X') ∧ (digit? 16 d).isSome then of 16 (d :: rest) else of 8 text
  | '0' :: _ => of 8 text
  | _ => of 10 text

def largest : Int := 9223372036854775807

def clamped (n : Int) : Int64 := Int64.ofInt (max (-largest - 1) (min n largest))

/-- The value of a text that may have blanks around its number. Nothing counts as zero. -/
def value? (text : List Char) : Option Int64 :=
  let bare := text.dropWhile isBlank
  let (negative, digits) : Bool × List Char := match bare with
    | '-' :: rest => (true, rest)
    | '+' :: rest => (false, rest)
    | rest => (false, rest)
  if bare.isEmpty then some 0
  else if (digits.head?.any Char.isDigit) then
    let (n, rest) := natural digits
    if rest.all isBlank then some (clamped (if negative then -n else n)) else none
  else none

def lexemesFrom : Nat → List Char → List Lexeme
  | 0, _ | _, [] => []
  | fuel + 1, c :: rest =>
    if isBlank c then lexemesFrom fuel rest
    else if c.isDigit then
      let (n, rest) := natural (c :: rest)
      .number (clamped n) :: lexemesFrom fuel rest
    else if c.isAlpha ∨ c = '_' then
      let inName (c : Char) : Bool := c.isAlphanum || c = '_'
      let name := c :: rest.takeWhile inName
      .name (String.ofList name) :: lexemesFrom fuel (rest.dropWhile inName)
    else
      match signs.find? fun sign => sign.toList.isPrefixOf (c :: rest) with
      | some sign => .sign sign :: lexemesFrom fuel ((c :: rest).drop sign.length)
      | none => .foreign :: lexemesFrom fuel rest

structure State where
  rest : List Lexeme
  values : String → Option String
  /-- What was assigned, the last first. -/
  assigned : List (String × Int64)

abbrev Calculation := EStateM Problem State

def take (sign : String) : Calculation Bool := fun state =>
  match state.rest with
  | .sign found :: rest =>
    if found = sign then .ok true { state with rest } else .ok false state
  | _ => .ok false state

def takeOf? (signs : List String) : Calculation (Option String) := fun state =>
  match state.rest with
  | .sign found :: rest =>
    if signs.contains found then .ok (some found) { state with rest } else .ok none state
  | _ => .ok none state

def lookUp (name : String) : Calculation Int64 := do
  let state ← get
  match state.assigned.lookup name with
  | some value => pure value
  | none =>
    let text := (state.values name).getD ""
    match value? text.toList with
    | some value => pure value
    | none => throw (.illegal text)

def ofBool (holds : Bool) : Int64 := if holds then 1 else 0

def apply (sign : String) (a b : Int64) : Calculation Int64 :=
  match sign with
  | "*" => pure (a * b)
  | "/" => if b = 0 then throw .divisionByZero else pure (a / b)
  | "%" => if b = 0 then throw .divisionByZero else pure (a % b)
  | "+" => pure (a + b)
  | "-" => pure (a - b)
  | "<<" => pure (a <<< b)
  | ">>" => pure (a >>> b)
  | "<" => pure (ofBool (decide (a < b)))
  | "<=" => pure (ofBool (decide (a ≤ b)))
  | ">" => pure (ofBool (decide (b < a)))
  | ">=" => pure (ofBool (decide (b ≤ a)))
  | "==" => pure (ofBool (a = b))
  | "!=" => pure (ofBool (a ≠ b))
  | "&" => pure (a &&& b)
  | "^" => pure (a ^^^ b)
  | _ => pure (a ||| b)

/-- The operators of two numbers that compute, the ones that bind less first. -/
def levels : List (List String) :=
  [["|"], ["^"], ["&"], ["==", "!="], ["<=", ">=", "<", ">"], ["<<", ">>"], ["+", "-"],
    ["*", "/", "%"]]

section
variable (inner : Bool → Calculation Int64)

/-- A number, a variable or an expression between parentheses, behind signs of its own. -/
def unary : Nat → Bool → Calculation Int64
  | 0, _ => throw (.expecting "primary")
  | fuel + 1, live => do
    let state ← get
    match state.rest with
    | .number value :: rest =>
      set { state with rest }
      pure value
    | .name name :: rest =>
      set { state with rest }
      if live then lookUp name else pure 0
    | .sign sign :: rest =>
      set { state with rest }
      match sign with
      | "(" =>
        let value ← inner live
        if ← take ")" then pure value else throw (.expecting "')'")
      | "+" => unary fuel live
      | "-" => return -(← unary fuel live)
      | "~" => return ~~~(← unary fuel live)
      | "!" => return ofBool ((← unary fuel live) = 0)
      | _ => throw (.expecting "primary")
    | _ => throw (.expecting "primary")

/-- What operators of one level make of their operands, from the left. -/
def chain (operand : Calculation Int64) (live : Bool) (signs : List String) :
    Nat → Int64 → Calculation Int64
  | 0, a => pure a
  | fuel + 1, a => do
    match ← takeOf? signs with
    | none => pure a
    | some sign =>
      let b ← operand
      let value ← if live then apply sign a b else pure b
      chain operand live signs fuel value

def binary (fuel : Nat) (live : Bool) : List (List String) → Calculation Int64
  | [] => unary inner fuel live
  | signs :: tighter => do
    let first ← binary fuel live tighter
    chain (binary fuel live tighter) live signs fuel first

def conjunction (fuel : Nat) (live : Bool) : Nat → Int64 → Calculation Int64
  | 0, a => pure a
  | steps + 1, a => do
    if ← take "&&" then
      let b ← binary inner fuel (live && a != 0) levels
      conjunction fuel live steps (ofBool (a != 0 && b != 0))
    else pure a

def disjunction (fuel : Nat) (live : Bool) : Nat → Int64 → Calculation Int64
  | 0, a => pure a
  | steps + 1, a => do
    if ← take "||" then
      let live' := live && a == 0
      let b ← conjunction inner fuel live' fuel (← binary inner fuel live' levels)
      disjunction fuel live steps (ofBool (a != 0 || b != 0))
    else pure a

def condition : Nat → Bool → Calculation Int64
  | 0, _ => throw (.expecting "primary")
  | fuel + 1, live => do
    let first ← conjunction inner fuel live fuel (← binary inner fuel live levels)
    let a ← disjunction inner fuel live fuel first
    if ← take "?" then
      let yes ← inner (live && a != 0)
      if ← take ":" then
        let no ← condition fuel (live && a == 0)
        pure (if a != 0 then yes else no)
      else throw (.expecting "':'")
    else pure a

end

def assigning? (sign : String) : Option String :=
  if ["<<=", ">>=", "+=", "-=", "*=", "/=", "%=", "&=", "|=", "^=", "="].contains sign then
    some (sign.dropEnd 1).toString
  else none

def assignment : Nat → Bool → Calculation Int64
  | 0, _ => throw (.expecting "primary")
  | fuel + 1, live => do
    let state ← get
    let compute : Calculation Int64 := condition (assignment fuel) (fuel + 1) live
    match state.rest with
    | .name name :: .sign sign :: rest =>
      match assigning? sign with
      | some operator =>
        set { state with rest }
        let right ← assignment fuel live
        if live then
          let value ← if operator = "" then pure right else apply operator (← lookUp name) right
          modify fun state => { state with assigned := (name, value) :: state.assigned }
          pure value
        else pure right
      | none => compute
    | _ => compute

/-- The value of an expression and what it assigns, in order. -/
def evaluate (values : String → Option String) (text : List Char) :
    Except Problem (Int64 × List (String × Int64)) :=
  let fuel := text.length + 2
  match assignment fuel true ⟨lexemesFrom fuel text, values, []⟩ with
  | .ok value state =>
    if state.rest.isEmpty then .ok (value, state.assigned.reverse)
    else .error (.expecting "EOF")
  | .error problem _ => .error problem

end TraceWeave.Shell.Arithmetic
