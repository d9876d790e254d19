import TraceWeave.World

/-! Tools that answer from a table, for runs without executables. -/

namespace TraceWeave.Toolset

inductive TableImporter where
  /-- Succeeds and leaves no trace. -/
  | idle
  /-- Takes the document itself for the trace; `name` is what it is called in an error. -/
  | copier (name : String)
  | failing (error : ToolError)

/-- The tools that export what a table holds. A path that is not in it has no rows. -/
def table (exports : List (String × Except ToolError (List Row))) (importer : TableImporter) :
    Toolset where
  extract path := pure ((exports.lookup path).getD (.ok []))
  reencode input output := fun world =>
    match importer with
    | .idle => (.ok (), world)
    | .failing error => (.error error, world)
    | .copier name =>
      match world.files.copy input output with
      | .ok files => (.ok (), { world with files })
      | .error cause => (.error (.unstartable .importer name cause), world)

end TraceWeave.Toolset
