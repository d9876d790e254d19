import TraceWeave.Proofs.Calls
import TraceWeave.Proofs.Interchange
import TraceWeave.Proofs.Outcome
import TraceWeave.Proofs.Threads

/-! The counters of a report against the events of the document.

A host that keeps a record of its calls records one for each answer, so what is called for is
decided by the course of the run (`exists_course_of_calls`). The one document that a run hands over,
if it gets that far, has as many events as the report counts (`events_accounted`). -/

namespace TraceWeave

variable {σ : Type}

def Answer.call : Answer → Call
  | .hasContent path present => ⟨.hasContent path, present⟩
  | .extract path rows => ⟨.extract path, rows.isOk⟩
  | .saveInterchange path text saved => ⟨.saveInterchange path text, saved.isOk⟩
  | .reencode input output imported => ⟨.reencode input output, imported.isOk⟩
  | .saveReport path text saved => ⟨.saveReport path text, saved.isOk⟩

namespace Host

variable {host : Host σ} {before after : σ × List Call} {answer : Answer} {answers : List Answer}

theorem Gives.calls_eq (h : host.recorded.Gives before answer after) :
    after.2 = before.2 ++ [answer.call] := by
  cases answer with
  | _ => cases h; rfl

theorem Answers.calls_eq (h : host.recorded.Answers before answers after) :
    after.2 = before.2 ++ answers.map Answer.call := by
  induction h with
  | none state => simp
  | remark said _ ih => exact ih
  | answer gives _ ih =>
    rw [ih, gives.calls_eq, List.map_cons, List.append_assoc, List.singleton_append]

end Host

def Call.document? : Call → Option String
  | ⟨.saveInterchange _ text, _⟩ => some text
  | _ => none

/-- Whether an errand is about an input. A merge needs all of these done. -/
def Errand.IsInput : Errand → Prop
  | .hasContent _ | .extract _ => True
  | _ => False

namespace Run

theorem exists_course_of_calls (host : Host σ) (config : Config) (state : σ) :
    ∃ answers result found text written, Course config answers result found ∧
      calls host config state =
        answers.map Answer.call ++ [⟨.saveReport config.summary text, written⟩] ∧
      (perform host config state).1.counts = found.counts := by
  obtain ⟨answers, result, found, course, given, attempted⟩ :=
    exists_course host.recorded config (state, [])
  obtain ⟨final, saved⟩ := perform_eq host.recorded config (state, [])
  obtain ⟨_, _, _, same⟩ := perform_recorded host config state
  have listed := saved.calls_eq
  rw [given.calls_eq] at listed
  refine ⟨answers, result, found, _, _, course, listed, ?_⟩
  rw [same, attempted] at final
  exact (congrArg Report.counts final).trans rfl

/-- A run that stops before the merge has handed nothing over and counts no merged events. -/
def StoppedEarly (counts : Counts) (calls : List Call) : Prop :=
  (∃ call ∈ calls, call.errand.IsInput ∧ call.succeeded = false) ∧
    calls.filterMap Call.document? = [] ∧ counts.mergedEvents = 0

/-- A run that has merged two traces has handed over one document, of the events that it counts. -/
def Merged (counts : Counts) (calls : List Call) : Prop :=
  (∀ call ∈ calls, call.errand.IsInput → call.succeeded = true) ∧
    ∃ (viewer layer : Trace) (layerShift : Int64) (text : String),
      let events := (Weave.ofTraces viewer layer layerShift).merged.events
      calls.filterMap Call.document? = [text] ∧ Interchange.read? text = some events ∧
        counts = ⟨viewer.zones.length, viewer.plots.length, layer.zones.length, layer.plots.length,
          (Timeline.threadsOf viewer).length, (Timeline.threadsOf layer).length, events.length⟩ ∧
        counts.mergedEvents = counts.viewerZones + counts.viewerPlots + counts.layerZones +
          counts.layerPlots + counts.viewerThreads + counts.layerThreads

theorem merged_ofTraces (config : Config) (viewer layer : List Row) (rest : List Call)
    (outputs : ∀ call ∈ rest, ¬ call.errand.IsInput)
    (handed : rest.filterMap Call.document? =
      [documentOf config (.ofRows viewer) (.ofRows layer)]) :
    Merged (Report.ofTraces config (.ofRows viewer) (.ofRows layer)).counts
      ((decoded config viewer layer).map Answer.call ++ rest) := by
  have done : ∀ call ∈ (decoded config viewer layer).map Answer.call, call.succeeded = true := by
    simp [decoded, present, Answer.call, Except.isOk, Except.toBool]
  refine ⟨fun call mem input => ?_, .ofRows viewer, .ofRows layer, _, _, handed, ?_, rfl, ?_⟩
  · rcases List.mem_append.mp mem with first | later
    · exact done call first
    · exact absurd input (outputs call later)
  · exact Interchange.read?_document .indented fun event mem => Weave.finite_of_mem mem
  · exact Weave.length_ofTraces ..

theorem Course.accounted {config : Config} {answers : List Answer} {result : Except Failure Unit}
    {found : Report} (h : Course config answers result found) (text : String) (written : Bool) :
    let calls := answers.map Answer.call ++ [⟨.saveReport config.summary text, written⟩]
    StoppedEarly found.counts calls ∨ Merged found.counts calls := by
  cases h with
  | viewerMissing =>
    left
    refine ⟨⟨⟨.hasContent config.viewerTrace, false⟩, ?_, trivial, rfl⟩, rfl, rfl⟩
    simp [Answer.call]
  | layerMissing =>
    left
    refine ⟨⟨⟨.hasContent config.layerTrace, false⟩, ?_, trivial, rfl⟩, rfl, rfl⟩
    simp [Answer.call]
  | viewerUnread error =>
    left
    refine ⟨⟨⟨.extract config.viewerTrace, false⟩, ?_, trivial, rfl⟩, rfl, rfl⟩
    simp [Answer.call, Except.isOk, Except.toBool]
  | layerUnread viewer error =>
    left
    refine ⟨⟨⟨.extract config.layerTrace, false⟩, ?_, trivial, rfl⟩, rfl, rfl⟩
    simp [Answer.call, Except.isOk, Except.toBool]
  | unsaved viewer layer error =>
    right
    refine merged_ofTraces config viewer layer [_, _] ?_ rfl
    simp [Answer.call, Call.errand, Request.errand, Errand.IsInput]
  | notImported viewer layer error =>
    right
    refine merged_ofTraces config viewer layer [_, _, _] ?_ rfl
    simp [Answer.call, Call.errand, Request.errand, Errand.IsInput]
  | finished viewer layer =>
    right
    refine merged_ofTraces config viewer layer [_, _, _] ?_ rfl
    simp [Answer.call, Call.errand, Request.errand, Errand.IsInput]

end Run

open Run

/-- All events of a merge come from its traces, on their processes and threads, and each thread is
named once. In the report of a run, whatever its host answers, the events are none if the run stops
before the merge; else they are those of the document that it hands over, as many as the zones,
plots and threads of the report together. -/
theorem events_accounted :
    (∀ (viewer layer : Trace) (layerShift : Int64),
      Attributed viewer layer (Weave.ofTraces viewer layer layerShift).merged.events) ∧
    ∀ {σ : Type} (host : Host σ) (config : Config) (state : σ),
      let counts := (perform host config state).1.counts
      let calls := calls host config state
      StoppedEarly counts calls ∨ Merged counts calls := by
  refine ⟨attributed_ofTraces, fun host config state => ?_⟩
  obtain ⟨answers, result, found, text, written, course, listed, counted⟩ :=
    exists_course_of_calls host config state
  intro counts calls
  rw [show counts = found.counts from counted, show calls = _ from listed]
  exact course.accounted text written

end TraceWeave
