import TraceWeave.Files.Save
import TraceWeave.Journal
import TraceWeave.Row
import TraceWeave.Tool

/-! What a run asks of the world around it.

A host answers each request from a state of its own, with success or any failure. `recorded`
adds a record of the requests, in order, each with whether it succeeded. -/

namespace TraceWeave

structure Host (σ : Type) where
  /-- Whether a path leads to a file that is not empty. -/
  hasContent : String → StateM σ Bool
  /-- The rows of a trace. -/
  extract : String → StateM σ (Except ToolError (List Row))
  /-- Writes the interchange document, a path and a text. -/
  saveInterchange : String → String → StateM σ (Except SaveError Unit)
  /-- Makes a trace of an interchange document, the path of each. -/
  reencode : String → String → StateM σ (Except ToolError Unit)
  /-- Writes the report, a path and a text. -/
  saveReport : String → String → StateM σ (Except SaveError Unit)
  /-- Takes notice of a remark. -/
  remark : Remark → StateM σ Unit

inductive Request where
  | hasContent (path : String)
  | extract (path : String)
  | saveInterchange (path text : String)
  | reencode (input output : String)
  | saveReport (path text : String)
  deriving DecidableEq

/-- A request with its outcome. -/
structure Call where
  request : Request
  succeeded : Bool
  deriving DecidableEq

namespace Host

/-- Answers as `action` does and appends the request to the record. -/
def record {σ α : Type} (request : Request) (succeeded : α → Bool) (action : StateM σ α) :
    StateM (σ × List Call) α :=
  fun (state, calls) =>
    let (answer, state) := action state
    (answer, (state, calls ++ [⟨request, succeeded answer⟩]))

/-- The host with a record of the requests made of it. Remarks are not requests. -/
def recorded {σ : Type} (host : Host σ) : Host (σ × List Call) where
  hasContent path := record (.hasContent path) id (host.hasContent path)
  extract path := record (.extract path) Except.isOk (host.extract path)
  saveInterchange path text :=
    record (.saveInterchange path text) Except.isOk (host.saveInterchange path text)
  reencode input output := record (.reencode input output) Except.isOk (host.reencode input output)
  saveReport path text := record (.saveReport path text) Except.isOk (host.saveReport path text)
  remark said := fun (state, calls) =>
    let ((), state) := host.remark said state
    ((), (state, calls))

end Host

end TraceWeave
