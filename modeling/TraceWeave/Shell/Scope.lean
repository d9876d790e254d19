import TraceWeave.Shell.Command

/-! What the commands of a script know: variables, arguments, functions and options. A part of a
script that runs on its own has a scope of its own. -/

namespace TraceWeave.Shell

structure Binding where
  value? : Option String
  exported : Bool
  /-- Whether the value is never to change. -/
  fixed : Bool

def Binding.none : Binding := ⟨Option.none, false, false⟩

/-- The options of a script with their letters, in the order in which they are listed. -/
def optionTable : List (String × Option Char) :=
  [("errexit", some 'e'), ("noglob", some 'f'), ("ignoreeof", some 'I'), ("interactive", some 'i'),
    ("monitor", some 'm'), ("noexec", some 'n'), ("stdin", some 's'), ("xtrace", some 'x'),
    ("verbose", some 'v'), ("vi", some 'V'), ("emacs", some 'E'), ("noclobber", some 'C'),
    ("allexport", some 'a'), ("notify", some 'b'), ("nounset", some 'u'), ("privileged", some 'p'),
    ("nolog", none), ("debug", none)]

def optionOfLetter? (letter : Char) : Option String :=
  (optionTable.find? fun row => row.2 = some letter).map Prod.fst

structure Scope where
  /-- The name of the script. -/
  title : String
  arguments : List String
  bindings : List (String × Binding)
  functions : List (String × Command)
  /-- The names of the options that are on. -/
  options : List String
  /-- What is run on a signal; the number 0 stands for the end. -/
  traps : List (Nat × String)
  /-- What local variables were before, for each function that is running. -/
  saved : List (List (String × Binding))
  /-- How many loops are running. -/
  loops : Nat
  /-- The permissions that new files do not get. -/
  mask : Nat
  aliases : List (String × String)
  process : Nat
  /-- The process of the last command in the background. -/
  background? : Option Nat
  /-- The argument after the one that options are being read from. -/
  optionIndex : Nat
  /-- How far into that argument the reading is. -/
  optionOffset? : Option Nat

namespace Scope

def has (scope : Scope) (option : String) : Bool := scope.options.contains option

def setOption (scope : Scope) (option : String) (on : Bool) : Scope :=
  let others := scope.options.filter (· ≠ option)
  { scope with options := if on then option :: others else others }

/-- The letters of the options that are on, the last one of the table first. -/
def letters (scope : Scope) : String :=
  String.ofList (optionTable.reverse.filterMap fun (name, letter?) =>
    if scope.has name then letter? else none)

def binding (scope : Scope) (name : String) : Binding :=
  (scope.bindings.lookup name).getD Binding.none

def value? (scope : Scope) (name : String) : Option String := (scope.binding name).value?

def put (scope : Scope) (name : String) (binding : Binding) : Scope :=
  { scope with bindings := (name, binding) :: scope.bindings.filter (·.1 ≠ name) }

def forget (scope : Scope) (name : String) : Scope :=
  { scope with bindings := scope.bindings.filter (·.1 ≠ name) }

def revert (scope : Scope) (name : String) (binding : Binding) : Scope :=
  if binding.value?.isNone && !binding.exported && !binding.fixed then scope.forget name
  else scope.put name binding

def sorted (scope : Scope) : List (String × Binding) :=
  scope.bindings.mergeSort fun a b => !decide (b.1 < a.1)

def environment (scope : Scope) : List (String × String) :=
  scope.sorted.filterMap fun (name, binding) =>
    if binding.exported then binding.value?.map fun value => (name, value) else none

def separators (scope : Scope) : List Char := ((scope.value? "IFS").getD " \t\n").toList

/-- The scope of a part that runs on its own: traps are gone but those that do nothing. -/
def apart (scope : Scope) : Scope :=
  { scope with traps := scope.traps.filter (·.2.isEmpty) }

end Scope

end TraceWeave.Shell
