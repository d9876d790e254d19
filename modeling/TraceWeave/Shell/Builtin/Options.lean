import TraceWeave.Shell.Session

/-! The options and numbers among the arguments of the session's own commands. -/

namespace TraceWeave.Shell.Session

/-- The options at the start of some arguments, with their values, and the other arguments. An
option in `valued` takes the rest of its argument or the next one. -/
def optionsFrom (plain valued : List Char) : Nat → List String →
    Action (List (Char × String) × List String)
  | 0, arguments => pure ([], arguments)
  | fuel + 1, arguments => do
    match arguments with
    | [] => pure ([], [])
    | argument :: rest =>
      match argument.toList with
      | ['-', '-'] => pure ([], rest)
      | '-' :: letter :: letters =>
        if valued.contains letter then
          if letters.isEmpty then
            match rest with
            | value :: rest =>
              let (options, rest) ← optionsFrom plain valued fuel rest
              pure ((letter, value) :: options, rest)
            | [] => fail ("No arg for -" ++ String.singleton letter ++ " option")
          else
            let (options, rest) ← optionsFrom plain valued fuel rest
            pure ((letter, String.ofList letters) :: options, rest)
        else if plain.contains letter then
          let next := if letters.isEmpty then rest else String.ofList ('-' :: letters) :: rest
          let (options, rest) ← optionsFrom plain valued fuel next
          pure ((letter, "") :: options, rest)
        else fail ("Illegal option -" ++ String.singleton letter)
      | _ => pure ([], arguments)

def options (plain valued : String) (arguments : List String) :
    Action (List (Char × String) × List String) :=
  let fuel := (String.join arguments).length + arguments.length + 1
  optionsFrom plain.toList valued.toList fuel arguments

def number (text : String) : Action Nat :=
  match text.toNat? with
  | some n => if text.all Char.isDigit then pure n else fail ("Illegal number: " ++ text)
  | none => fail ("Illegal number: " ++ text)

/-- A text between single quotes, those in it between double ones. -/
def quotedFrom : Nat → List Char → List Char
  | 0, _ => []
  | fuel + 1, text =>
    let plain := text.takeWhile (· ≠ '\'')
    let rest := text.drop plain.length
    let quotes := rest.takeWhile (· = '\'')
    let shown := '\'' :: plain ++ ['\'']
    if rest.isEmpty then shown
    else
      let more := rest.drop quotes.length
      shown ++ '"' :: quotes ++ '"' :: (if more.isEmpty then [] else quotedFrom fuel more)

def quoted (text : String) : String := String.ofList (quotedFrom (text.length + 1) text.toList)

end TraceWeave.Shell.Session
