import TraceWeave.Run

/-! What a run reports. Its report is decided by what the host answered: `Course` lists how far the
work can get, with the answers up to there and all that was found by then, and every run takes one
of these courses (`report_of_course`). -/

namespace TraceWeave

inductive Answer where
  | hasContent (path : String) (present : Bool)
  | extract (path : String) (rows : Except ToolError (List Row))
  | saveInterchange (path text : String) (saved : Except SaveError Unit)
  | reencode (input output : String) (imported : Except ToolError Unit)
  | saveReport (path text : String) (saved : Except SaveError Unit)

variable {σ α β : Type}

namespace Host

/-- The host gives this answer and goes from one state to another. -/
def Gives (host : Host σ) (before : σ) : Answer → σ → Prop
  | .hasContent path present, after => host.hasContent path before = (present, after)
  | .extract path rows, after => host.extract path before = (rows, after)
  | .saveInterchange path text saved, after => host.saveInterchange path text before = (saved, after)
  | .reencode input output imported, after => host.reencode input output before = (imported, after)
  | .saveReport path text saved, after => host.saveReport path text before = (saved, after)

/-- The host gives these answers, one after the other, and hears any remarks in between. -/
inductive Answers (host : Host σ) : σ → List Answer → σ → Prop where
  | none (state : σ) : Answers host state [] state
  | remark {before after : σ} {answers : List Answer} (said : Remark) :
      Answers host (host.remark said before).2 answers after → Answers host before answers after
  | answer {before between after : σ} {answer : Answer} {answers : List Answer} :
      host.Gives before answer between → Answers host between answers after →
      Answers host before (answer :: answers) after

variable {host : Host σ} {before between after : σ} {answers more : List Answer}

theorem Answers.append (h : host.Answers before answers between)
    (h' : host.Answers between more after) : host.Answers before (answers ++ more) after := by
  induction h with
  | none => exact h'
  | remark said _ ih => exact .remark said (ih h')
  | answer gives _ ih => exact .answer gives (ih h')

end Host

namespace Report

def ofViewer (viewer : Trace) : Report :=
  { initial with counts := ⟨viewer.zones.length, viewer.plots.length, 0, 0, 0, 0, 0⟩ }

/-- What there is to say against an alignment. -/
def objections (config : Config) (alignment : Alignment) : List String :=
  match alignment.method with
  | .frameMarker => []
  | .relativeTime =>
    [if config.alignmentDisabled then Fallback.disabled.message else Fallback.noCommonFrame.message]

def ofTraces (config : Config) (viewer layer : Trace) : Report :=
  let alignment := (Resolution.ofTraces viewer layer config.markers?).alignment
  let weave := Weave.ofTraces viewer layer alignment.layerShift
  { success := false
    warnings := objections config alignment
    alignment
    normalization := weave.merged.shift
    counts := ⟨viewer.zones.length, viewer.plots.length, layer.zones.length, layer.plots.length,
      weave.viewer.threads.length, weave.layer.threads.length, weave.merged.events.length⟩ }

end Report

theorem Alignment.ofMarkers?_eq_some {viewer layer : MarkerIndex} {alignment : Alignment}
    (h : ofMarkers? viewer layer = some alignment) :
    ∃ frame shift, alignment = ⟨.frameMarker, some frame, shift⟩ := by
  simp only [ofMarkers?, Option.bind_eq_bind, Option.bind_eq_some_iff, Option.some.injEq] at h
  obtain ⟨frame, -, viewerTime, -, layerTime, -, rfl⟩ := h
  exact ⟨frame, _, rfl⟩

/-- Either the traces are aligned on a frame, or there is a reason to compare raw times. -/
theorem Resolution.ofTraces_cases (viewer layer : Trace) (names? : Option MarkerNames) :
    (∃ frame shift, (ofTraces viewer layer names?).alignment = ⟨.frameMarker, some frame, shift⟩ ∧
        (ofTraces viewer layer names?).fallback? = none) ∨
      (ofTraces viewer layer names?).alignment = .relativeTime ∧
        (ofTraces viewer layer names?).fallback? =
          some (if names? = none then .disabled else .noCommonFrame) := by
  cases names? with
  | none => exact .inr ⟨rfl, rfl⟩
  | some names =>
    simp only [ofTraces]
    split
    case h_1 alignment found =>
      obtain ⟨frame, shift, rfl⟩ := Alignment.ofMarkers?_eq_some found
      exact .inl ⟨frame, shift, rfl, rfl⟩
    case h_2 => exact .inr ⟨rfl, rfl⟩

theorem objections_eq (config : Config) (viewer layer : Trace) :
    let resolution := Resolution.ofTraces viewer layer config.markers?
    resolution.fallback?.toList.map Fallback.message =
      Report.objections config resolution.alignment := by
  have disabled : config.markers? = none ↔ config.alignmentDisabled = true := by
    simp [Config.markers?]
  rcases Resolution.ofTraces_cases viewer layer config.markers? with
    ⟨frame, shift, aligned, unsaid⟩ | ⟨aligned, said⟩
  · simp [Report.objections, aligned, unsaid]
  · by_cases off : config.alignmentDisabled = true <;>
      simp [Report.objections, aligned, said, Alignment.relativeTime, disabled, off]

namespace Run

def documentOf (config : Config) (viewer layer : Trace) : String :=
  let alignment := (Resolution.ofTraces viewer layer config.markers?).alignment
  let weave := Weave.ofTraces viewer layer alignment.layerShift
  (Interchange.ofEvents weave.merged.events).document .indented

/-- The answers when both inputs have content. -/
def present (config : Config) : List Answer :=
  [.hasContent config.viewerTrace true, .hasContent config.layerTrace true]

def decoded (config : Config) (viewer layer : List Row) : List Answer :=
  present config ++ [.extract config.viewerTrace (.ok viewer), .extract config.layerTrace (.ok layer)]

/-- How the work of a run can go: the answers up to the first failure or to the end, the failure if
there was one, and what was found until then. -/
inductive Course (config : Config) : List Answer → Except Failure Unit → Report → Prop where
  | viewerMissing : Course config [.hasContent config.viewerTrace false]
      (.error (.invalidInput config.viewerTrace)) .initial
  | layerMissing : Course config
      [.hasContent config.viewerTrace true, .hasContent config.layerTrace false]
      (.error (.invalidInput config.layerTrace)) .initial
  | viewerUnread (error : ToolError) : Course config
      (present config ++ [.extract config.viewerTrace (.error error)])
      (.error (.tool error)) .initial
  | layerUnread (viewer : List Row) (error : ToolError) : Course config
      (present config ++
        [.extract config.viewerTrace (.ok viewer), .extract config.layerTrace (.error error)])
      (.error (.tool error)) (.ofViewer (.ofRows viewer))
  | unsaved (viewer layer : List Row) (error : SaveError) : Course config
      (decoded config viewer layer ++
        [.saveInterchange config.interchange (documentOf config (.ofRows viewer) (.ofRows layer))
          (.error error)])
      (.error (.output (error.causes .interchange)))
      (.ofTraces config (.ofRows viewer) (.ofRows layer))
  | notImported (viewer layer : List Row) (error : ToolError) : Course config
      (decoded config viewer layer ++
        [.saveInterchange config.interchange (documentOf config (.ofRows viewer) (.ofRows layer))
          (.ok ()),
         .reencode config.interchange config.outputTrace (.error error)])
      (.error (.tool error)) (.ofTraces config (.ofRows viewer) (.ofRows layer))
  | finished (viewer layer : List Row) : Course config
      (decoded config viewer layer ++
        [.saveInterchange config.interchange (documentOf config (.ofRows viewer) (.ofRows layer))
          (.ok ()),
         .reencode config.interchange config.outputTrace (.ok ())])
      (.ok ()) (.ofTraces config (.ofRows viewer) (.ofRows layer))

/-! ### Following a run -/

def ending : EStateM.Result Failure (Progress σ) α → Except Failure α × Progress σ
  | .ok a progress => (.ok a, progress)
  | .error failure progress => (.error failure, progress)

/-- A step ends after answers that agree with its result and its report. -/
def Yields (host : Host σ) (action : Run σ α) (progress : Progress σ)
    (agrees : List Answer → Except Failure α → Report → Prop) : Prop :=
  ∃ answers, host.Answers progress.state answers (ending (action progress)).2.state ∧
    agrees answers (ending (action progress)).1 (ending (action progress)).2.report

namespace Yields

variable {host : Host σ} {progress : Progress σ} {path : String} {next : Unit → Run σ β}
  {agrees : List Answer → Except Failure β → Report → Prop}

theorem pure {b : β} (h : agrees [] (.ok b) progress.report) :
    Yields host (pure b) progress agrees := ⟨[], .none _, h⟩

theorem throw {failure : Failure} (h : agrees [] (.error failure) progress.report) :
    Yields host (throw failure) progress agrees := ⟨[], .none _, h⟩

theorem update {change : Report → Report}
    (h : Yields host (next ()) ⟨progress.state, change progress.report⟩ agrees) :
    Yields host (update change >>= next) progress agrees := h

theorem log {record : LogRecord}
    (h : ∀ state, Yields host (next ()) ⟨state, progress.report⟩ agrees) :
    Yields host (log host record >>= next) progress agrees := by
  obtain ⟨answers, given, agree⟩ := h (host.remark (.log record) progress.state).2
  exact ⟨answers, .remark _ given, agree⟩

theorem logs {records : List LogRecord}
    (h : ∀ state, Yields host (next ()) ⟨state, progress.report⟩ agrees) :
    Yields host (records.forM (Run.log host) >>= next) progress agrees := by
  induction records generalizing progress with
  | nil => exact h progress.state
  | cons record records ih =>
    show Yields host ((Run.log host record >>= fun _ => records.forM (Run.log host)) >>= next) _ _
    rw [bind_assoc]
    exact log fun state => ih h

theorem request {γ : Type} {asked : StateM σ γ} {next : γ → Run σ β} (answer : γ → Answer)
    (gives : host.Gives progress.state (answer (asked progress.state).1) (asked progress.state).2)
    (h : ∀ c state, Yields host (next c) ⟨state, progress.report⟩ fun answers =>
      agrees (answer c :: answers)) :
    Yields host (ask asked >>= next) progress agrees := by
  obtain ⟨answers, given, agree⟩ := h (asked progress.state).1 (asked progress.state).2
  exact ⟨answer (asked progress.state).1 :: answers, .answer gives given, agree⟩

theorem requireContent
    (missing : agrees [.hasContent path false] (.error (.invalidInput path)) progress.report)
    (present : ∀ state, Yields host (next ()) ⟨state, progress.report⟩ fun answers =>
      agrees (.hasContent path true :: answers)) :
    Yields host (requireContent host path >>= next) progress agrees := by
  unfold Run.requireContent
  rw [bind_assoc]
  refine request (.hasContent path) rfl fun found state => ?_
  cases found with
  | false => exact throw missing
  | true => exact present state

theorem extract {next : Trace → Run σ β}
    (failed : ∀ error, agrees [.extract path (.error error)] (.error (.tool error)) progress.report)
    (read : ∀ rows state, Yields host (next (.ofRows rows)) ⟨state, progress.report⟩ fun answers =>
      agrees (.extract path (.ok rows) :: answers)) :
    Yields host (extract host path >>= next) progress agrees := by
  unfold Run.extract
  rw [bind_assoc]
  refine request (.extract path) rfl fun result state => ?_
  cases result with
  | error error => exact throw (failed error)
  | ok rows =>
    show Yields host ((Run.log host _ >>= fun _ => Pure.pure (Trace.ofRows rows)) >>= next) _ _
    rw [bind_assoc]
    exact log fun state => read rows state

end Yields

theorem recordMerge_recordAlignment (config : Config) (viewer layer : Trace) :
    let resolution := Resolution.ofTraces viewer layer config.markers?
    let weave := Weave.ofTraces viewer layer resolution.alignment.layerShift
    (((Report.initial.recordViewer viewer).recordLayer layer).recordAlignment resolution).recordMerge
      weave.viewer weave.layer weave.merged = .ofTraces config viewer layer := by
  have said := objections_eq config viewer layer
  simp only [Report.ofTraces, ← said]
  cases fallback : (Resolution.ofTraces viewer layer config.markers?).fallback? with
  | none => simp [Report.recordAlignment, fallback]; rfl
  | some => simp [Report.recordAlignment, fallback]; rfl

theorem yields_merge (host : Host σ) (config : Config) (state : σ) :
    Yields host (merge host config) ⟨state, .initial⟩ (Course config) := by
  refine .requireContent .viewerMissing fun state => ?_
  refine .requireContent .layerMissing fun state => ?_
  refine .extract .viewerUnread fun viewer state => ?_
  refine .update ?_
  refine .extract (.layerUnread viewer) fun layer state => ?_
  refine .update ?_
  refine .logs fun state => ?_
  refine .update ?_
  refine .update ?_
  refine .logs fun state => ?_
  rw [recordMerge_recordAlignment config]
  refine .request (.saveInterchange config.interchange _) rfl fun saved state => ?_
  cases saved with
  | error error => exact .throw (.unsaved viewer layer error)
  | ok =>
    refine .request (.reencode config.interchange config.outputTrace) rfl
      fun imported state => ?_
    cases imported with
    | error error => exact .throw (.notImported viewer layer error)
    | ok =>
      rw [← bind_pure (Run.log host _)]
      exact .log fun state => .pure (.finished viewer layer)

def complaint : Except Failure Unit → List String
  | .ok () => []
  | .error failure => [failure.message]

theorem Course.success_eq {config : Config} {answers : List Answer} {result : Except Failure Unit}
    {found : Report} (h : Course config answers result found) : found.success = false := by
  cases h <;> rfl

theorem answers_complain (host : Host σ) (captured : List String) (message : String) (state : σ) :
    host.Answers state [] (complain host captured message state) := by
  unfold complain
  generalize captured ++ _ = texts
  induction texts generalizing state with
  | nil => exact .none state
  | cons text texts ih => exact .remark _ (ih _)

theorem exists_course (host : Host σ) (config : Config) (state : σ) :
    ∃ answers result found, Course config answers result found ∧
      host.Answers state answers (attempt host config state).2 ∧
      (attempt host config state).1 = { found with
        success := result.isOk
        warnings := found.warnings ++ complaint result } := by
  obtain ⟨answers, given, course⟩ := yields_merge host config state
  unfold attempt
  cases work : merge host config ⟨state, .initial⟩ with
  | ok _ progress =>
    rw [work] at given course
    refine ⟨answers, _, _, course, given, ?_⟩
    simp [ending, complaint, Except.isOk, Except.toBool]
  | error failure progress =>
    rw [work] at given course
    refine ⟨answers, _, _, course, ?_, ?_⟩
    · have heard := answers_complain host failure.captured failure.message progress.state
      rw [← List.append_nil answers]
      exact given.append heard
    · simp [ending, complaint, Except.isOk, Except.toBool, Report.warn, ← course.success_eq]

/-- What comes of the attempt to write the report, and the host after it. -/
def save (host : Host σ) (config : Config) (state : σ) : Except SaveError Unit × σ :=
  host.saveReport config.summary (attempt host config state).1.text (attempt host config state).2

/-- Writing the report changes nothing in it but its success. -/
theorem perform_eq (host : Host σ) (config : Config) (state : σ) :
    let attempted := (attempt host config state).1
    let written := (save host config state).1
    (perform host config state).1 =
        { attempted with success := attempted.success && written.isOk } ∧
      host.Answers (attempt host config state).2
        [.saveReport config.summary attempted.text written] (perform host config state).2 := by
  unfold save perform
  cases saved : host.saveReport config.summary (attempt host config state).1.text
      (attempt host config state).2 with
  | mk written after =>
    cases written with
    | ok =>
      simp only [saved]
      exact ⟨by simp [Except.isOk, Except.toBool], .answer saved (.none _)⟩
    | error error =>
      simp only [saved]
      exact ⟨by simp [Except.isOk, Except.toBool], .answer saved (answers_complain host ..)⟩

end Run

end TraceWeave
