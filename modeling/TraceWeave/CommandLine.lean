import TraceWeave.CommandLine.Call
import TraceWeave.Toolset.External

/-! The program as it is called, with executables for tools. -/

namespace TraceWeave.CommandLine

/-- What tools are told of the environment. -/
def environment (asked? : Option String) : List (String × String) :=
  Shell.standardEnvironment ++ [("NO_COLOR", "1")]
    ++ (asked?.map fun asked => ("RUST_LOG", Shell.Raw.ofText asked)).toList

def call (arguments : List String) (asked? : Option String) (files : Files) : Result :=
  callWith (Toolset.external (environment asked?)) arguments asked? files

end TraceWeave.CommandLine
