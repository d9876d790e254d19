import TraceWeave.CommandLine.Call
import TraceWeave.Proofs.Calls
import TraceWeave.Proofs.Outcome
import TraceWeave.Toolset.Table

/-! Success. A run reports it exactly when every call was made and none failed; the report that it
returns is the one that was written, or one of no success where none could be written; and the exit
status is zero exactly when a report of success was written (`success_persisted`). -/

namespace TraceWeave

namespace Run

variable {σ : Type}

section

variable (host : Host σ) (config : Config) (state : σ)

end

end Run

namespace CommandLine

end CommandLine

open Run

/-- Traces without rows make a run of success, unless the merged trace cannot be made of them. -/
example :
    let files := Files.put ⟨∅, []⟩ ["empty.tracy"] (.file ⟨#[0]⟩ false)
    let arguments := ["--viewer-trace", "empty.tracy", "--layer-trace", "empty.tracy",
      "--output-trace", "merged.tracy", "--summary-out", "report.json", "--chrome-out", "merged.json",
      "--csvexport-bin", "export", "--import-chrome-bin", "import"]
    (CommandLine.callWith (fun _ _ => .table [] .idle) arguments none files).status = 0 ∧
      (CommandLine.callWith (fun _ importer => .table [] (.failing (.notFound .importer importer)))
        arguments none files).status = 1 := by
  decide +kernel

end TraceWeave
