import TraceWeave.Shell.Program.Desk

/-! The options of programs.

Options are letters behind a hyphen or names behind two, which can be cut short. They may stand
among the operands. Two hyphens end them. -/

namespace TraceWeave.Shell

inductive OptionValue where
  | none
  | required
  | optional
  deriving DecidableEq

/-- An option by its letter or its name or both. -/
structure OptionForm where
  letter? : Option Char
  name : String
  value : OptionValue

def OptionForm.key (form : OptionForm) : String :=
  (form.letter?.map String.singleton).getD form.name

/-- Options with a letter that take no value, and no name. -/
def flags (letters : String) : List OptionForm :=
  letters.toList.map fun letter => ⟨some letter, "", .none⟩

def valued (letters : String) : List OptionForm :=
  letters.toList.map fun letter => ⟨some letter, "", .required⟩

def flag (letter : Char) (name : String) : OptionForm := ⟨some letter, name, .none⟩

def needing (letter : Char) (name : String) : OptionForm := ⟨some letter, name, .required⟩

/-- What the arguments of a program say: options by their letters, or by their names where they
have none, with their values, and operands. -/
structure Arguments where
  options : List (String × String)
  operands : List String

namespace Arguments

def has (arguments : Arguments) (key : String) : Bool := arguments.options.any (·.1 == key)

def value? (arguments : Arguments) (key : String) : Option String :=
  arguments.options.reverse.lookup key

def addOption (key value : String) (arguments : Arguments) : Arguments :=
  { arguments with options := (key, value) :: arguments.options }

def addOperand (operand : String) (arguments : Arguments) : Arguments :=
  { arguments with operands := operand :: arguments.operands }

/-- The options whose names begin so. A whole name is meant alone. -/
def named (forms : List OptionForm) (text : String) : List OptionForm :=
  match forms.filter (·.name == text) with
  | [] => forms.filter fun form => !text.isEmpty && form.name.startsWith text
  | whole => whole

/-- Reads one named option, given what reads the arguments behind it. -/
def readNamed (forms : List OptionForm) (text : String) (value? : Option String)
    (rest : List String) (onward : List String → Except String Arguments) :
    Except String Arguments :=
  match named forms text with
  | [] => .error ("unrecognized option '--" ++ text ++ "'")
  | [form] =>
    match form.value, value? with
    | .none, some _ => .error ("option '--" ++ form.name ++ "' doesn't allow an argument")
    | .none, none | .optional, none => (onward rest).map (addOption form.key "")
    | _, some value => (onward rest).map (addOption form.key value)
    | .required, none =>
      match rest with
      | value :: rest => (onward rest).map (addOption form.key value)
      | [] => .error ("option '--" ++ form.name ++ "' requires an argument")
  | several =>
    let names := several.map fun form => " '--" ++ form.name ++ "'"
    .error ("option '--" ++ text ++ "' is ambiguous; possibilities:" ++ String.join names)

def readLetters (forms : List OptionForm) (onward : List String → Except String Arguments)
    (rest : List String) : List Char → Except String Arguments
  | [] => onward rest
  | letter :: letters =>
    let key := String.singleton letter
    match forms.find? fun form => form.letter? == some letter with
    | none => .error ("invalid option -- '" ++ key ++ "'")
    | some form =>
      match form.value with
      | .none => (readLetters forms onward rest letters).map (addOption key "")
      | .optional => (onward rest).map (addOption key (String.ofList letters))
      | .required =>
        if !letters.isEmpty then (onward rest).map (addOption key (String.ofList letters))
        else
          match rest with
          | value :: rest => (onward rest).map (addOption key value)
          | [] => .error ("option requires an argument -- '" ++ key ++ "'")

/-- Reads arguments. Where they are `strict` the first operand ends the options. -/
def readFrom (forms : List OptionForm) (strict : Bool) : Nat → List String →
    Except String Arguments
  | 0, arguments => .ok ⟨[], arguments⟩
  | _, [] => .ok ⟨[], []⟩
  | fuel + 1, argument :: rest =>
    let onward := readFrom forms strict fuel
    match argument.toList with
    | ['-', '-'] => .ok ⟨[], rest⟩
    | '-' :: '-' :: text =>
      let name := text.takeWhile (· ≠ '=')
      let value? := if name.length < text.length then
          some (String.ofList (text.drop (name.length + 1)))
        else none
      readNamed forms (String.ofList name) value? rest onward
    | '-' :: letter :: letters => readLetters forms onward rest (letter :: letters)
    | _ =>
      if strict then .ok ⟨[], argument :: rest⟩
      else (onward rest).map (addOperand argument)

def read (forms : List OptionForm) (strict : Bool) (arguments : List String) :
    Except String Arguments :=
  readFrom forms strict (arguments.length + 1) arguments

end Arguments

/-- A program that ends with another status than usual when something goes wrong. -/
def Program.troubled (trouble : Nat) (program : Program) : Program := fun arguments => do
  modify fun desk => { desk with trouble }
  program arguments

def Program.withOptions (forms : List OptionForm) (run : Arguments → StateM Desk Unit) : Program :=
  fun arguments =>
    match Arguments.read forms false arguments with
    | .ok arguments => run arguments
    | .error text => Desk.misuse text

end TraceWeave.Shell
