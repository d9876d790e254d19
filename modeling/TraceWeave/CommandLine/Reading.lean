import TraceWeave.CommandLine.Usage

/-! Reading the command line.

Arguments are read in order, and the first fault counts. An option whose value stands in the next
argument is settled when the next option comes, or at the end; only then does a missing, repeated
or unusable value count, so an unknown argument is reported first. -/

namespace TraceWeave.CommandLine

/-- What stops the reading. -/
inductive Stop where
  | help
  | version
  | error (error : UsageError)
  deriving DecidableEq

structure Reading where
  given : Given
  /-- The option that is not settled yet, and its value once that was read. -/
  pending? : Option (Valued × Option String)
  /-- Whether options have ended. -/
  ended : Bool
  deriving DecidableEq

namespace Reading

def start : Reading := ⟨.nothing, none, false⟩

def fail {α : Type} (error : UsageError) : Except Stop α := .error (.error error)

/-- Takes over the value of an option. -/
def supply (given : Given) (option : Valued) (value : String) : Except Stop Given :=
  if given.has option then fail (.repeated (.valued option))
  else if option.admits value then .ok { given with values := (option, value) :: given.values }
  else fail (.missingValue option)

def settle (reading : Reading) : Except Stop Reading := do
  match reading.pending? with
  | none => .ok reading
  | some (option, none) => fail (.missingValue option)
  | some (option, some value) =>
    let given ← supply reading.given option value
    .ok { reading with given, pending? := none }

def raise (reading : Reading) (flag : Flag) : Except Stop Reading := do
  let reading ← reading.settle
  let given := reading.given
  match flag with
  | .help => .error .help
  | .version => .error .version
  | .verbose =>
    let verbosity := min (given.verbosity + 1) Given.maxVerbosity
    .ok { reading with given := { given with verbosity } }
  | .disableAlignment =>
    if given.alignmentDisabled then fail (.repeated (.flag .disableAlignment))
    else .ok { reading with given := { given with alignmentDisabled := true } }

/-- An option by its name, with the value behind an equals sign if there is one. -/
def long (reading : Reading) (name : String) (attached? : Option String) :
    Except Stop Reading := do
  match Known.ofName? name, attached? with
  | none, _ => fail (.unexpectedArgument ("--" ++ name))
  | some (.flag flag), none => reading.raise flag
  | some (.flag flag), some value => fail (.unexpectedValue flag value)
  | some (.valued option), none =>
    let reading ← reading.settle
    .ok { reading with pending? := some (option, none) }
  | some (.valued option), some value =>
    let reading ← reading.settle
    let given ← supply reading.given option value
    .ok { reading with given }

def short (reading : Reading) : List Char → Except Stop Reading
  | [] => .ok reading
  | letter :: letters =>
    match Known.ofLetter? letter with
    | some (.flag flag) => do
      let reading ← reading.raise flag
      reading.short letters
    | _ => fail (.unexpectedArgument ("-" ++ String.singleton letter))

/-- An argument that is no option: the value that is waited for, if there is one. -/
def plain (reading : Reading) (argument : String) : Except Stop Reading :=
  match reading.pending? with
  | some (option, none) => .ok { reading with pending? := some (option, some argument) }
  | _ => fail (.unexpectedArgument argument)

def read (reading : Reading) (argument : String) : Except Stop Reading :=
  if reading.ended then fail (.unexpectedArgument argument)
  else
    match argument.toList with
    | ['-', '-'] => .ok { reading with ended := true }
    | '-' :: '-' :: rest =>
      let name := String.ofList (rest.takeWhile (· ≠ '='))
      match rest.dropWhile (· ≠ '=') with
      | [] => reading.long name none
      | _ :: value => reading.long name (some (String.ofList value))
    | '-' :: letter :: letters => reading.short (letter :: letters)
    | _ => reading.plain argument

def finish (reading : Reading) : Except Stop Given := do
  let reading ← reading.settle
  let missing := Valued.all.any fun option => option.isRequired && !reading.given.has option
  if missing then fail .missingOptions else .ok reading.given

end Reading

def Given.ofArguments (arguments : List String) : Except Stop Given := do
  let reading ← arguments.foldlM Reading.read Reading.start
  reading.finish

end TraceWeave.CommandLine
