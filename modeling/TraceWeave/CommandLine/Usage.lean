import TraceWeave.CommandLine.Options
import TraceWeave.Text.Terminal

/-! The texts for those who call the program wrongly or ask how to call it. -/

namespace TraceWeave.CommandLine

inductive UsageError where
  | missingOptions
  | unexpectedArgument (argument : String)
  | repeated (option : Known)
  | missingValue (option : Valued)
  | unexpectedValue (flag : Flag) (value : String)
  deriving DecidableEq

/-- A text between the sequences that set it off on a terminal. -/
def emphasized (text : String) : String := "\x1b[33m" ++ text ++ "\x1b[0m"

def UsageError.styled : UsageError → String
  | .missingOptions => "error: the following required arguments were not provided:"
  | .unexpectedArgument argument =>
    "error: unexpected argument '" ++ emphasized argument ++ "' found"
  | .repeated option =>
    "error: the argument '" ++ option.shape ++ "' cannot be used multiple times"
  | .missingValue option =>
    "error: a value is required for '" ++ (Known.valued option).shape ++ "' but none was supplied"
  | .unexpectedValue flag value =>
    "error: unexpected value '" ++ emphasized value ++ "' for '" ++ (Known.flag flag).shape
      ++ "' found; no more were expected"

/-- What is printed where there is no terminal. Control sequences in what was given go as well. -/
def UsageError.message (error : UsageError) : String := Text.Terminal.strip error.styled

def programName := "tracemerge"
def versionText := programName ++ " 0.1.0\n"

def Known.description : Known → String
  | .flag .verbose => "Increase log verbosity (-v info, -vv debug, -vvv trace)"
  | .flag .disableAlignment => "Merge on raw timestamps without marker alignment"
  | .flag .help => "Print help"
  | .flag .version => "Print version"
  | .valued .viewerTrace => "Trace captured by the viewer process"
  | .valued .layerTrace => "Trace captured by the layer process"
  | .valued .outputTrace => "Native merged trace to produce"
  | .valued .summary => "Where to write the JSON run report"
  | .valued .exporter => "Tool that exports a native trace as CSV"
  | .valued .importer => "Tool that imports a chrome trace document into a native trace"
  | .valued .interchange => "Where to write the intermediate chrome trace document"
  | .valued .viewerMarker => "Frame marker plot in the viewer trace"
  | .valued .layerMarker => "Frame marker plot in the layer trace"

def Known.help (known : Known) : String :=
  let letter := match known.letter? with
    | some letter => "-" ++ String.singleton letter ++ ", "
    | none => "    "
  let standard := match known with
    | .valued option =>
      match option.default? with
      | some value => " [default: " ++ value ++ "]"
      | none => ""
    | .flag _ => ""
  "  " ++ letter ++ known.shape ++ "\n          " ++ known.description ++ standard ++ "\n"

def helpText : String :=
  let required := (Valued.all.filter (·.isRequired)).map fun option => (Known.valued option).shape
  "Merge two traces into one timeline trace\n\nUsage: " ++ programName ++ " [OPTIONS] "
    ++ " ".intercalate required ++ "\n\nOptions:\n" ++ "".intercalate (Known.all.map Known.help)

end TraceWeave.CommandLine
