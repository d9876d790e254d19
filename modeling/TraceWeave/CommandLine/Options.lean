import TraceWeave.Config

/-! The options of the command line. -/

namespace TraceWeave.CommandLine

inductive Valued where
  | viewerTrace
  | layerTrace
  | outputTrace
  | summary
  | exporter
  | importer
  | interchange
  | viewerMarker
  | layerMarker
  deriving DecidableEq

namespace Valued

def all : List Valued :=
  [viewerTrace, layerTrace, outputTrace, summary, exporter, importer, interchange, viewerMarker,
    layerMarker]

def name : Valued → String
  | viewerTrace => "viewer-trace"
  | layerTrace => "layer-trace"
  | outputTrace => "output-trace"
  | summary => "summary-out"
  | exporter => "csvexport-bin"
  | importer => "import-chrome-bin"
  | interchange => "chrome-out"
  | viewerMarker => "viewer-marker"
  | layerMarker => "layer-marker"

/-- What stands for the value in a usage text. -/
def placeholder : Valued → String
  | viewerTrace => "VIEWER_TRACE"
  | layerTrace => "LAYER_TRACE"
  | outputTrace => "OUTPUT_TRACE"
  | summary => "SUMMARY_OUT"
  | exporter => "CSVEXPORT_BIN"
  | importer => "IMPORT_CHROME_BIN"
  | interchange => "CHROME_OUT"
  | viewerMarker => "VIEWER_MARKER"
  | layerMarker => "LAYER_MARKER"

/-- The value of an option that may be left out. -/
def default? : Valued → Option String
  | viewerMarker => some Config.defaultViewerMarker
  | layerMarker => some Config.defaultLayerMarker
  | _ => none

def isRequired (option : Valued) : Bool := option.default?.isNone

/-- Whether a value can be used. Only markers may be empty. -/
def admits (option : Valued) (value : String) : Bool := !option.isRequired || !value.isEmpty

end Valued

inductive Flag where
  | verbose
  | disableAlignment
  | help
  | version
  deriving DecidableEq

inductive Known where
  | valued (option : Valued)
  | flag (flag : Flag)
  deriving DecidableEq

namespace Known

def all : List Known :=
  .flag .verbose :: Valued.all.map .valued ++ [.flag .disableAlignment, .flag .help, .flag .version]

def name : Known → String
  | .valued option => option.name
  | .flag .verbose => "verbose"
  | .flag .disableAlignment => "disable-marker-alignment"
  | .flag .help => "help"
  | .flag .version => "version"

def letter? : Known → Option Char
  | .flag .verbose => some 'v'
  | .flag .help => some 'h'
  | .flag .version => some 'V'
  | _ => none

def shape (known : Known) : String :=
  "--" ++ known.name ++
    match known with
    | .valued option => " <" ++ option.placeholder ++ ">"
    | .flag .verbose => "..."
    | .flag _ => ""

def ofName? (name : String) : Option Known := all.find? (·.name = name)
def ofLetter? (letter : Char) : Option Known := all.find? (·.letter? = some letter)

end Known

structure Given where
  values : List (Valued × String)
  verbosity : Nat
  alignmentDisabled : Bool
  deriving DecidableEq

namespace Given

def nothing : Given := ⟨[], 0, false⟩

/-- The verbosity does not count past this. -/
def maxVerbosity : Nat := 255

def value (given : Given) (option : Valued) : String :=
  (given.values.lookup option).getD (option.default?.getD "")

def has (given : Given) (option : Valued) : Bool := (given.values.lookup option).isSome

def config (given : Given) : Config where
  verbosity := given.verbosity
  viewerTrace := given.value .viewerTrace
  layerTrace := given.value .layerTrace
  outputTrace := given.value .outputTrace
  interchange := given.value .interchange
  summary := given.value .summary
  viewerMarker := given.value .viewerMarker
  layerMarker := given.value .layerMarker
  alignmentDisabled := given.alignmentDisabled

end Given

end TraceWeave.CommandLine
