import TraceWeave.Host

/-! Files, a journal and what is printed, and the host that works on them with some tools. -/

namespace TraceWeave

structure World where
  files : Files
  /-- What went to the standard output. -/
  printed : String
  /-- All that was said, in order. -/
  journal : Array Remark

namespace World

def ofFiles (files : Files) : World := ⟨files, "", #[]⟩

def say (remark : Remark) : StateM World Unit :=
  modify fun world => { world with journal := world.journal.push remark }

/-- Shows a text that was written to a path, where that is a standard stream. -/
def shown (world : World) (path text : String) : World :=
  match world.files.find path with
  | .ok (_, .device .output) => { world with printed := world.printed ++ text }
  | .ok (_, .device .errors) => { world with journal := world.journal.push (.plain text) }
  | _ => world

def save (path text : String) : StateM World (Except SaveError Unit) := fun world =>
  let (result, files) := world.files.save path text
  let world := { world with files }
  (result, if result.isOk then world.shown path text else world)

end World

/-- The tools of a run. -/
structure Toolset where
  extract : String → StateM World (Except ToolError (List Row))
  reencode : String → String → StateM World (Except ToolError Unit)

/-- The host that reads and writes the files of its world. -/
def Host.ofToolset (tools : Toolset) : Host World where
  hasContent path := do return (← get).files.hasContent path
  extract := tools.extract
  saveInterchange := World.save
  reencode := tools.reencode
  saveReport := World.save
  remark := World.say

end TraceWeave
