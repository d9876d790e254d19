import TraceWeave.Run

/-! The calls that a run makes of its host. They follow a plan of six errands, stop at the first
that fails, and end with one attempt to write the report. That a host keeps a record of its calls
changes neither what it does nor what comes of the run. -/

namespace TraceWeave

/-- What is asked for in a request, whatever text goes with it. -/
inductive Errand where
  | hasContent (path : String)
  | extract (path : String)
  | saveInterchange (path : String)
  | reencode (input output : String)
  | saveReport (path : String)
  deriving DecidableEq

def Request.errand : Request → Errand
  | .hasContent path => .hasContent path
  | .extract path => .extract path
  | .saveInterchange path _ => .saveInterchange path
  | .reencode input output => .reencode input output
  | .saveReport path _ => .saveReport path

def Call.errand (call : Call) : Errand := call.request.errand

def Errand.IsTool : Errand → Prop
  | .extract _ | .reencode _ _ => True
  | _ => False

/-- Calls that run the errands of a plan in their order, up to the first that fails, and whether
they got to its end. -/
inductive Follows : List Errand → List Call → Bool → Prop where
  | done : Follows [] [] true
  | stopped {errand : Errand} {plan : List Errand} {request : Request} :
      request.errand = errand → Follows (errand :: plan) [⟨request, false⟩] false
  | passed {errand : Errand} {plan : List Errand} {request : Request} {calls : List Call}
      {complete : Bool} : request.errand = errand → Follows plan calls complete →
      Follows (errand :: plan) (⟨request, true⟩ :: calls) complete

def Done (errand : Errand) (calls : List Call) : Prop :=
  ∃ call ∈ calls, call.errand = errand ∧ call.succeeded = true

theorem isPrefix_of_not_mem {α : Type} {before first rest : List α} {a : α}
    (h : before ++ [a] <+: first ++ rest) (ha : a ∉ first) : first <+: before := by
  rcases List.prefix_or_prefix_of_prefix h (List.prefix_append first rest) with inside | h
  · exact absurd (inside.subset (by simp)) ha
  · rcases List.prefix_concat_iff.mp h with rfl | h
    · exact absurd (by simp) ha
    · exact h

namespace Follows

variable {plan rest : List Errand} {calls more before after : List Call} {call : Call}
  {complete : Bool}

theorem append_of_stopped (h : Follows plan calls false) : Follows (plan ++ rest) calls false := by
  generalize hc : false = complete at h
  induction h with
  | done => cases hc
  | stopped same => exact stopped same
  | passed same _ ih => exact passed same (ih hc)

theorem append (h : Follows plan calls true) (h' : Follows rest more complete) :
    Follows (plan ++ rest) (calls ++ more) complete := by
  generalize hc : true = whole at h
  induction h with
  | done => exact h'
  | stopped same => cases hc
  | passed same _ ih => exact passed same (ih hc)

theorem isPrefix (h : Follows plan calls complete) : calls.map Call.errand <+: plan := by
  induction h with
  | done => exact List.prefix_refl []
  | stopped same =>
    subst same
    exact (List.prefix_cons_inj _).mpr List.nil_prefix
  | passed same _ ih =>
    subst same
    exact (List.prefix_cons_inj _).mpr ih

theorem map_errand_of_complete (h : Follows plan calls true) : calls.map Call.errand = plan := by
  generalize hc : true = whole at h
  induction h with
  | done => rfl
  | stopped => cases hc
  | passed same _ ih =>
    subst same
    rw [List.map_cons, ih hc]
    rfl

theorem complete_iff (h : Follows plan calls complete) :
    complete = true ↔ ∀ call ∈ calls, call.succeeded = true := by
  induction h with
  | done => simp
  | stopped => simp
  | passed _ _ ih => simp [ih]

/-- Nothing follows on a call that failed. -/
theorem eq_nil_of_failed (h : Follows plan calls complete) (hc : calls = before ++ call :: after)
    (failed : call.succeeded = false) : after = [] := by
  induction h generalizing before with
  | done => simp at hc
  | stopped =>
    cases before with
    | nil => cases hc; rfl
    | cons => simp at hc
  | passed _ _ ih =>
    cases before with
    | nil => cases hc; cases failed
    | cons => injection hc with _ hc; exact ih hc

theorem succeeded_before (h : Follows plan calls complete)
    (hc : calls = before ++ call :: after) : ∀ earlier ∈ before, earlier.succeeded = true := by
  intro earlier mem
  obtain ⟨first, last, rfl⟩ := List.append_of_mem mem
  cases outcome : earlier.succeeded with
  | true => rfl
  | false =>
    have none := h.eq_nil_of_failed (by rw [hc, List.append_assoc, List.cons_append]) outcome
    simp at none

/-- An errand that is not among the first ones of the plan is run when all of these are done. -/
theorem done_before (first : List Errand) (h : Follows (first ++ rest) calls complete)
    (hc : calls = before ++ call :: after) (later : call.errand ∉ first) :
    ∀ errand ∈ first, Done errand before := by
  intro errand mem
  have inPlan : (before ++ [call]).map Call.errand <+: first ++ rest := by
    refine List.IsPrefix.trans (List.IsPrefix.map _ ?_) h.isPrefix
    exact ⟨after, by rw [hc, List.append_assoc, List.singleton_append]⟩
  rw [List.map_append] at inPlan
  obtain ⟨earlier, run, rfl⟩ := List.mem_map.mp ((isPrefix_of_not_mem inPlan later).subset mem)
  exact ⟨earlier, run, rfl, h.succeeded_before hc earlier run⟩

end Follows

namespace Run

variable {σ α β : Type}

def withCalls (calls : List Call) :
    EStateM.Result Failure (Progress σ) α → EStateM.Result Failure (Progress (σ × List Call)) α
  | .ok a progress => .ok a ⟨(progress.state, calls), progress.report⟩
  | .error failure progress => .error failure ⟨(progress.state, calls), progress.report⟩

def goesOn : EStateM.Result Failure (Progress σ) α → Bool
  | .ok _ _ => true
  | .error _ _ => false

theorem bind_ok {action : Run σ α} {next : α → Run σ β} {p q : Progress σ} {a : α}
    (h : action p = .ok a q) : (action >>= next) p = next a q := by
  show EStateM.bind action next p = next a q
  simp only [EStateM.bind, h]

theorem bind_error {action : Run σ α} {next : α → Run σ β} {p q : Progress σ} {failure : Failure}
    (h : action p = .error failure q) : (action >>= next) p = .error failure q := by
  show EStateM.bind action next p = .error failure q
  simp only [EStateM.bind, h]

/-- The second of two steps does what the first one does and records calls that follow a plan, to
its end unless the step fails. -/
def Records (plan : List Errand) (action : Run σ α) (recording : Run (σ × List Call) α) : Prop :=
  ∀ (state : σ) (report : Report) (earlier : List Call),
    ∃ calls, Follows plan calls (goesOn (action ⟨state, report⟩)) ∧
      recording ⟨(state, earlier), report⟩ = withCalls (earlier ++ calls) (action ⟨state, report⟩)

namespace Records

variable {plan rest : List Errand} {action : Run σ α} {recording : Run (σ × List Call) α}

theorem pure (a : α) : Records [] (pure a : Run σ α) (pure a) := by
  intro state report earlier
  exact ⟨[], .done, by rw [List.append_nil]; rfl⟩

theorem update (change : Report → Report) :
    Records [] (update change : Run σ Unit) (update change) := by
  intro state report earlier
  exact ⟨[], .done, by rw [List.append_nil]; rfl⟩

theorem log (host : Host σ) (record : LogRecord) :
    Records [] (log host record) (log host.recorded record) := by
  intro state report earlier
  exact ⟨[], .done, by rw [List.append_nil]; rfl⟩

theorem bind {next : α → Run σ β} {next' : α → Run (σ × List Call) β}
    (h : Records plan action recording) (h' : ∀ a, Records rest (next a) (next' a)) :
    Records (plan ++ rest) (action >>= next) (recording >>= next') := by
  intro state report earlier
  obtain ⟨calls, follows, same⟩ := h state report earlier
  cases result : action ⟨state, report⟩ with
  | ok a progress =>
    rw [result] at follows same
    rw [bind_ok result, bind_ok same]
    obtain ⟨more, follows', same'⟩ := h' a progress.state progress.report (earlier ++ calls)
    refine ⟨calls ++ more, follows.append follows', ?_⟩
    rw [← List.append_assoc]
    exact same'
  | error failure progress =>
    rw [result] at follows same
    rw [bind_error result, bind_error same]
    exact ⟨calls, follows.append_of_stopped, rfl⟩

theorem logs (host : Host σ) (records : List LogRecord) :
    Records [] (records.forM (Run.log host)) (records.forM (Run.log host.recorded)) := by
  induction records with
  | nil => exact pure ()
  | cons record records ih => exact bind (log host record) fun () => ih

/-- A request, and what is done with its answer: a failure where the request failed. -/
theorem request (request : Request) (succeeded : α → Bool) (ask : StateM σ α)
    {next : α → Run σ β} {next' : α → Run (σ × List Call) β}
    (failed : ∀ a, succeeded a = false → ∃ failure, next a = throw failure ∧ next' a = throw failure)
    (passed : ∀ a, succeeded a = true → Records rest (next a) (next' a)) :
    Records (request.errand :: rest) (Run.ask ask >>= next)
      (Run.ask (Host.record request succeeded ask) >>= next') := by
  intro state report earlier
  have answer : Run.ask ask ⟨state, report⟩ = .ok (ask state).1 ⟨(ask state).2, report⟩ := rfl
  have answer' : Run.ask (Host.record request succeeded ask) ⟨(state, earlier), report⟩ =
      .ok (ask state).1
        ⟨((ask state).2, earlier ++ [⟨request, succeeded (ask state).1⟩]), report⟩ := rfl
  rw [bind_ok answer, bind_ok answer']
  cases outcome : succeeded (ask state).1 with
  | false =>
    obtain ⟨failure, thrown, thrown'⟩ := failed _ outcome
    rw [thrown, thrown']
    exact ⟨[⟨request, false⟩], .stopped rfl, rfl⟩
  | true =>
    obtain ⟨calls, follows, same⟩ :=
      passed _ outcome (ask state).2 report (earlier ++ [⟨request, true⟩])
    refine ⟨⟨request, true⟩ :: calls, .passed rfl follows, ?_⟩
    rw [List.append_cons earlier ⟨request, true⟩ calls]
    exact same

theorem request_except {ε γ : Type} (request : Request) (ask : StateM σ (Except ε γ))
    {next : Except ε γ → Run σ β} {next' : Except ε γ → Run (σ × List Call) β}
    (failed : ∀ error, ∃ failure,
      next (.error error) = throw failure ∧ next' (.error error) = throw failure)
    (passed : ∀ a, Records rest (next (.ok a)) (next' (.ok a))) :
    Records (request.errand :: rest) (Run.ask ask >>= next)
      (Run.ask (Host.record request Except.isOk ask) >>= next') := by
  refine Records.request request Except.isOk ask ?_ ?_
  · intro answer outcome
    cases answer with
    | error error => exact failed error
    | ok a => cases outcome
  · intro answer outcome
    cases answer with
    | error error => cases outcome
    | ok a => exact passed a

end Records

/-- The errands of a run without the report. -/
def plan (config : Config) : List Errand :=
  [.hasContent config.viewerTrace, .hasContent config.layerTrace,
   .extract config.viewerTrace, .extract config.layerTrace,
   .saveInterchange config.interchange, .reencode config.interchange config.outputTrace]

section

variable (host : Host σ)

theorem records_requireContent (path : String) :
    Records [.hasContent path] (requireContent host path) (requireContent host.recorded path) := by
  refine Records.request (.hasContent path) id (host.hasContent path) ?_ ?_
  · rintro present rfl
    exact ⟨.invalidInput path, rfl, rfl⟩
  · rintro present rfl
    exact Records.pure ()

theorem records_extract (path : String) :
    Records [.extract path] (extract host path) (extract host.recorded path) := by
  refine Records.request_except (.extract path) (host.extract path) ?_ ?_
  · intro error
    exact ⟨.tool error, rfl, rfl⟩
  · intro rows
    exact (Records.log host _).bind fun () => Records.pure (Trace.ofRows rows)

theorem records_merge (config : Config) :
    Records (plan config) (merge host config) (merge host.recorded config) := by
  refine (records_requireContent host config.viewerTrace).bind fun () => ?_
  refine (records_requireContent host config.layerTrace).bind fun () => ?_
  refine (records_extract host config.viewerTrace).bind fun viewer => ?_
  refine (Records.update (·.recordViewer viewer)).bind fun () => ?_
  refine (records_extract host config.layerTrace).bind fun layer => ?_
  refine (Records.update (·.recordLayer layer)).bind fun () => ?_
  refine (Records.logs host _).bind fun () => ?_
  refine (Records.update _).bind fun () => ?_
  refine (Records.update _).bind fun () => ?_
  refine (Records.logs host _).bind fun () => ?_
  refine Records.request_except (.saveInterchange config.interchange _) _ ?_ ?_
  · intro error
    exact ⟨.output (error.causes .interchange), rfl, rfl⟩
  · intro saved
    refine Records.request_except (.reencode config.interchange config.outputTrace) _ ?_ ?_
    · intro error
      exact ⟨.tool error, rfl, rfl⟩
    · intro imported
      exact Records.log host _

theorem complain_recorded (captured : List String) (message : String) (state : σ)
    (calls : List Call) :
    complain host.recorded captured message (state, calls) =
      (complain host captured message state, calls) := by
  unfold complain
  generalize captured ++ _ = texts
  induction texts generalizing state with
  | nil => rfl
  | cons text texts ih => exact ih _

theorem attempt_recorded (config : Config) (state : σ) :
    ∃ calls, Follows (plan config) calls (goesOn (merge host config ⟨state, .initial⟩)) ∧
      attempt host.recorded config (state, []) =
        ((attempt host config state).1, (attempt host config state).2, calls) := by
  obtain ⟨calls, follows, same⟩ := records_merge host config state .initial []
  refine ⟨calls, follows, ?_⟩
  unfold attempt
  rw [same, List.nil_append]
  cases merge host config ⟨state, .initial⟩ with
  | ok => rfl
  | error failure progress => simp only [withCalls, complain_recorded]

def calls (config : Config) (state : σ) : List Call :=
  (perform host.recorded config (state, [])).2.2

theorem saveReport_recorded (path text : String) (state : σ) (calls : List Call) :
    host.recorded.saveReport path text (state, calls) =
      ((host.saveReport path text state).1, (host.saveReport path text state).2,
        calls ++ [⟨.saveReport path text, (host.saveReport path text state).1.isOk⟩]) := rfl

/-- A run with a record comes out as one without. Its calls are those of its work and one to write
the report, recorded with its outcome. -/
theorem perform_recorded_isOk (config : Config) (state : σ) :
    ∃ work, Follows (plan config) work (goesOn (merge host config ⟨state, .initial⟩)) ∧
      perform host.recorded config (state, []) =
        ((perform host config state).1, (perform host config state).2,
          work ++ [⟨.saveReport config.summary (attempt host config state).1.text,
            (host.saveReport config.summary (attempt host config state).1.text
              (attempt host config state).2).1.isOk⟩]) := by
  obtain ⟨work, follows, same⟩ := attempt_recorded host config state
  refine ⟨work, follows, ?_⟩
  unfold perform
  rw [same]
  simp only [saveReport_recorded]
  cases host.saveReport config.summary (attempt host config state).1.text
    (attempt host config state).2 with
  | mk result after =>
    cases result with
    | error error => simp only [complain_recorded]
    | ok => rfl

theorem perform_recorded (config : Config) (state : σ) :
    ∃ work written, Follows (plan config) work (goesOn (merge host config ⟨state, .initial⟩)) ∧
      perform host.recorded config (state, []) =
        ((perform host config state).1, (perform host config state).2,
          work ++ [⟨.saveReport config.summary (attempt host config state).1.text, written⟩]) := by
  obtain ⟨work, follows, same⟩ := perform_recorded_isOk host config state
  exact ⟨work, _, follows, same⟩

end

/-- How the calls go that are the work of a run, with what comes before a call and after it. -/
structure Orderly (config : Config) (work : List Call) : Prop where
  inPlan : work.map Call.errand <+: plan config
  failed_last : ∀ before call after, work = before ++ call :: after →
    call.succeeded = false → after = []
  whole : (∀ call ∈ work, call.succeeded = true) → work.map Call.errand = plan config
  /-- No tool is run on inputs that were not found to have content. -/
  checked : ∀ before call after, work = before ++ call :: after → call.errand.IsTool →
    Done (.hasContent config.viewerTrace) before ∧ Done (.hasContent config.layerTrace) before
  /-- The interchange document is written when all was found and read. -/
  decoded : ∀ before call after path, work = before ++ call :: after →
    call.errand = .saveInterchange path →
    Done (.hasContent config.viewerTrace) before ∧ Done (.hasContent config.layerTrace) before ∧
      Done (.extract config.viewerTrace) before ∧ Done (.extract config.layerTrace) before
  /-- A document is imported that this run has written. -/
  saved : ∀ before call after input output, work = before ++ call :: after →
    call.errand = .reencode input output →
    input = config.interchange ∧ Done (.saveInterchange config.interchange) before

theorem orderly_of_follows {config : Config} {work : List Call} {complete : Bool}
    (h : Follows (plan config) work complete) : Orderly config work where
  inPlan := h.isPrefix
  failed_last _ _ _ := h.eq_nil_of_failed
  whole all := by
    obtain rfl := h.complete_iff.mpr all
    exact h.map_errand_of_complete
  checked before call after split tool := by
    have done := Follows.done_before
      [.hasContent config.viewerTrace, .hasContent config.layerTrace] h split ?later
    case later =>
      intro mem
      simp only [List.mem_cons, List.not_mem_nil, or_false] at mem
      rcases mem with same | same <;> rw [same] at tool <;> exact tool
    exact ⟨done _ (by simp), done _ (by simp)⟩
  decoded before call after path split same := by
    have done := Follows.done_before
      [.hasContent config.viewerTrace, .hasContent config.layerTrace,
       .extract config.viewerTrace, .extract config.layerTrace] h split (by simp [same])
    exact ⟨done _ (by simp), done _ (by simp), done _ (by simp), done _ (by simp)⟩
  saved before call after input output split same := by
    have done := Follows.done_before
      [.hasContent config.viewerTrace, .hasContent config.layerTrace,
       .extract config.viewerTrace, .extract config.layerTrace,
       .saveInterchange config.interchange] h split (by simp [same])
    have planned : call.errand ∈ plan config :=
      h.isPrefix.subset (List.mem_map_of_mem (by rw [split]; simp))
    rw [same] at planned
    simp only [plan, List.mem_cons, reduceCtorEq, Errand.reencode.injEq, List.not_mem_nil,
      false_or, or_false] at planned
    exact ⟨planned.1, done _ (by simp)⟩

/-- Whatever a host answers, the calls of a run are those of its work, in order and up to the first
that fails, and then one to write the report. No errand that failed is run again. -/
theorem calls_orderly {σ : Type} (host : Host σ) (config : Config) (state : σ) :
    ∃ work written,
      calls host config state =
        work ++ [⟨.saveReport config.summary (attempt host config state).1.text, written⟩] ∧
      Orderly config work ∧
      ∀ before call after, calls host config state = before ++ call :: after →
        call.succeeded = false → ∀ later ∈ after, later.errand ≠ call.errand := by
  obtain ⟨work, written, follows, same⟩ := perform_recorded host config state
  have split : calls host config state =
      work ++ [⟨.saveReport config.summary (attempt host config state).1.text, written⟩] := by
    rw [calls, same]
  refine ⟨work, written, split, orderly_of_follows follows, ?_⟩
  intro before call after whole failed later mem
  rw [split] at whole
  rcases List.eq_nil_or_concat after with rfl | ⟨between, last, rfl⟩
  · simp at mem
  · rw [List.concat_eq_append, ← List.cons_append, ← List.append_assoc] at whole
    obtain ⟨inWork, isReport⟩ := List.append_inj' whole rfl
    obtain rfl := follows.eq_nil_of_failed inWork failed
    have planned : call.errand ∈ plan config :=
      follows.isPrefix.subset (List.mem_map_of_mem (by rw [inWork]; simp))
    obtain rfl : later = last := by simpa using mem
    intro again
    rw [← again, ← (List.cons.inj isReport).1] at planned
    simp [plan, Call.errand, Request.errand] at planned

end Run

end TraceWeave
