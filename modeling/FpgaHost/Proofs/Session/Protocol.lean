import FpgaHost.Device.Instrumented
import FpgaHost.Proofs.Session.Decisions
import FpgaHost.Proofs.Session.Operations

/-!
# The protocol of a pipeline

Which calls of a pipeline are in order is decided by an automaton over the steps of a schedule
(`PipelineState.after?`). A call that is in order advances the automaton if it succeeds, and leaves
it where it is if the backend fails any of its requests; a call that is out of order is refused and
asks the backend for nothing. So the state of a pipeline is that of the automaton after the calls
that succeeded, whatever fails in between, and the same goes for the stages of a whole cycle.

Main statements: `Action.outcome_perform` (what one call comes to), `foldlM_accepted` (what many
come to) and `follows_protocol`.
-/

namespace FpgaHost

open Steps Attempt

/-- The state that a step leads to; none if the step is out of order. -/
def PipelineState.after? : PipelineState → Session.Step → Option PipelineState
  | .idle, .submit .load => some .loaded
  | .stored, .submit .load => some .loaded
  | .loaded, .submit .compute => some .computed
  | .computed, .submit .store => some .stored
  | .stored, .finish => some .idle
  | state, .finish => some state
  | _, .submit _ => none

theorem PipelineState.after?_of_ready {state : PipelineState} {stage : Stage}
    (ready : stage.startsFrom.contains state = true) :
    state.after? (.submit stage) = some stage.leadsTo := by
  revert ready
  cases state <;> cases stage <;> decide

theorem PipelineState.after?_of_late {state : PipelineState} {stage : Stage}
    (late : stage.startsFrom.contains state = false) : state.after? (.submit stage) = none := by
  revert late
  cases state <;> cases stage <;> decide

theorem PipelineState.after?_finish (state : PipelineState) :
    state.after? .finish = some state.finished := by
  cases state <;> rfl

namespace Pipeline

variable {σ : Type}

/-! ### What one call comes to -/

/-- What a step of a pipeline comes to on a backend that may fail any request. -/
inductive Outcome (step : Session.Step) (p : Pipeline) (s : σ) :
    EStateM.Result SessionError (Pipeline × σ) Unit → Prop
  /-- It is out of order; nothing is changed or asked for. -/
  | refused (stage : Stage) (named : step = .submit stage) (late : p.state.after? step = none) :
      Outcome step p s (.error (.outOfOrder stage p.state) (p, s))
  /-- It is in order and the backend failed; the state stays. -/
  | failed (next : PipelineState) (ready : p.state.after? step = some next) (method : Method)
      (status : Status) {q : Pipeline} (t : σ) (same : q.state = p.state) :
      Outcome step p s (.error (.call method status) (q, t))
  /-- It succeeded; the state moves on. -/
  | advanced {q : Pipeline} (t : σ) (ready : p.state.after? step = some q.state) :
      Outcome step p s (.ok () (q, t))

namespace Outcome

variable {step : Session.Step} {p : Pipeline} {s : σ}
  {result : EStateM.Result SessionError (Pipeline × σ) Unit}

theorem state_of_ok {t : Pipeline × σ} (outcome : Outcome step p s (.ok () t)) :
    p.state.after? step = some t.1.state := by
  cases outcome with
  | advanced t ready => exact ready

theorem state_of_error {e : SessionError} {t : Pipeline × σ}
    (outcome : Outcome step p s (.error e t)) : t.1.state = p.state := by
  cases outcome with
  | refused stage named late => rfl
  | failed next ready method status t same => exact same

/-- A call is refused exactly if the automaton has no such step. -/
theorem refused_iff (outcome : Outcome step p s result) :
    (∃ stage state t, result = .error (.outOfOrder stage state) t) ↔ p.state.after? step = none := by
  cases outcome with
  | refused stage named late => exact ⟨fun _ => late, fun _ => ⟨stage, p.state, _, rfl⟩⟩
  | failed next ready method status t same =>
    constructor
    · rintro ⟨stage, state, u, ⟨⟩⟩
    · intro late
      rw [late] at ready
      contradiction
  | advanced t ready =>
    constructor
    · rintro ⟨stage, state, u, ⟨⟩⟩
    · intro late
      rw [late] at ready
      contradiction

/-- A call that is refused changes nothing at all. -/
theorem eq_of_late (outcome : Outcome step p s result) (late : p.state.after? step = none) :
    ∃ stage, step = .submit stage ∧ result = .error (.outOfOrder stage p.state) (p, s) := by
  cases outcome with
  | refused stage named late => exact ⟨stage, named, rfl⟩
  | failed next ready =>
    rw [late] at ready
    contradiction
  | advanced t ready =>
    rw [late] at ready
    contradiction

end Outcome

variable [ComputeApi σ]

/-- Giving events back fails with a call only, and keeps the state. -/
theorem ensures_release (stage : Stage) (state : PipelineState) :
    Ensures (fun ps : Pipeline × σ => ps.1.state = state) (release stage)
      (fun _ ps => ps.1.state = state)
      (fun e ps => (∃ method status, e = .call method status) ∧ ps.1.state = state) := by
  rintro ⟨p, s⟩ same
  rw [release_apply]
  cases p.event stage with
  | none => exact same
  | some event =>
    have kept : (p.withoutEvent stage).state = state := by
      rw [← same]
      cases stage <;> rfl
    dsimp only
    rw [onSecond_apply, ask_apply]
    cases ComputeApi.call (.releaseEvent event) s with
    | ok _ t => exact kept
    | error status t => exact ⟨⟨_, status, rfl⟩, kept⟩

theorem ensures_releaseHeld (state : PipelineState) :
    Ensures (fun ps : Pipeline × σ => ps.1.state = state) releaseHeld
      (fun _ ps => ps.1.state = state)
      (fun e ps => (∃ method status, e = .call method status) ∧ ps.1.state = state) :=
  (ensures_release .load state).bind fun _ => (ensures_release .compute state).bind fun _ =>
    ensures_release .store state

/-- A migration fails with a call only. -/
theorem submitMigration_error {queue : QueueHandle} {buffers : List BufferHandle}
    {direction : Direction} {wait : List EventHandle} {s t : σ} {e : SessionError}
    (failed : submitMigration queue buffers direction wait s = .error e t) :
    ∃ method status, e = .call method status := by
  rw [submitMigration_eq, ask_apply] at failed
  split at failed
  · contradiction
  · cases called : ComputeApi.call (.enqueueMigrate queue buffers direction wait) s with
    | ok event u =>
      rw [called] at failed
      contradiction
    | error status u =>
      rw [called] at failed
      cases failed
      exact ⟨_, status, rfl⟩

theorem outcome_write (queue : QueueHandle) (m : BufferManager) (p : Pipeline) (s : σ) :
    Outcome (.submit .load) p s (discard (write queue m) (p, s)) := by
  rw [discard_apply, write_eq]
  cases ready : Stage.load.startsFrom.contains p.state with
  | false => exact .refused .load rfl (PipelineState.after?_of_late ready)
  | true =>
    have after := PipelineState.after?_of_ready ready
    rw [if_pos rfl]
    have released := ensures_releaseHeld p.state (p, s) rfl
    cases gave : releaseHeld (p, s) with
    | error e qt =>
      rw [gave] at released
      obtain ⟨⟨method, status, rfl⟩, same⟩ := released
      exact .failed _ after method status qt.2 same
    | ok _ qt =>
      obtain ⟨q, t⟩ := qt
      rw [gave] at released
      dsimp only
      cases migrated : submitMigration queue m.loadHandles .toDevice [] t with
      | error e u =>
        obtain ⟨method, status, rfl⟩ := submitMigration_error migrated
        exact .failed _ after method status u released
      | ok event u => exact .advanced u after

theorem outcome_execute (queue : QueueHandle) (kernel : KernelHandle) (p : Pipeline) (s : σ) :
    Outcome (.submit .compute) p s (discard (execute queue kernel) (p, s)) := by
  rw [discard_apply, execute_eq]
  cases ready : Stage.compute.startsFrom.contains p.state with
  | false => exact .refused .compute rfl (PipelineState.after?_of_late ready)
  | true =>
    have after := PipelineState.after?_of_ready ready
    rw [if_pos rfl]
    rw [ask_apply]
    cases ComputeApi.call (.enqueueTask queue kernel p.load.event.toList) s with
    | error status t => exact .failed _ after _ status t rfl
    | ok event t => exact .advanced t after

theorem outcome_read (queue : QueueHandle) (m : BufferManager) (p : Pipeline) (s : σ) :
    Outcome (.submit .store) p s (discard (read queue m) (p, s)) := by
  rw [discard_apply, read_eq]
  cases ready : Stage.store.startsFrom.contains p.state with
  | false => exact .refused .store rfl (PipelineState.after?_of_late ready)
  | true =>
    have after := PipelineState.after?_of_ready ready
    rw [if_pos rfl]
    cases migrated : submitMigration queue m.storeHandles .toHost p.compute.event.toList s with
    | error e t =>
      obtain ⟨method, status, rfl⟩ := submitMigration_error migrated
      exact .failed _ after method status t rfl
    | ok event t => exact .advanced t after

theorem outcome_finish (queue : QueueHandle) (p : Pipeline) (s : σ) :
    Outcome .finish p s (finish queue (p, s)) := by
  have after := p.state.after?_finish
  rw [finish_eq, ask_apply]
  cases ComputeApi.call (.flush queue) s with
  | error status t => exact .failed _ after _ status t rfl
  | ok _ t =>
    dsimp only
    rw [ask_apply]
    cases ComputeApi.call (.finish queue) t with
    | error status u => exact .failed _ after _ status u rfl
    | ok _ u => exact .advanced u after

/-- A call is refused, fails or advances the state, and which of them it does not do is decided by
the automaton. -/
theorem Action.outcome_perform (action : Action) (p : Pipeline) (s : σ) :
    Outcome action.step p s (action.perform (p, s)) := by
  cases action with
  | write queue m => exact outcome_write queue m p s
  | execute queue kernel => exact outcome_execute queue kernel p s
  | read queue m => exact outcome_read queue m p s
  | finish queue => exact outcome_finish queue p s

/-! ### What many calls come to -/

/-- The pipeline and the backend after some calls, failures aside. -/
def performAll (actions : List Action) (ps : Pipeline × σ) : Pipeline × σ :=
  actions.foldl (fun ps action => stateOf (action.perform ps)) ps

/-- The steps of those calls that succeed. -/
def accepted : List Action → Pipeline × σ → List Session.Step
  | [], _ => []
  | action :: rest, ps =>
    match action.perform ps with
    | .ok _ qt => action.step :: accepted rest qt
    | .error _ qt => accepted rest qt

/-- The calls that succeed lead the automaton to the state of the pipeline. -/
theorem foldlM_accepted (actions : List Action) (p : Pipeline) (s : σ) :
    (accepted actions (p, s)).foldlM PipelineState.after? p.state =
      some (performAll actions (p, s)).1.state := by
  induction actions generalizing p s with
  | nil => rfl
  | cons action rest ih =>
    have outcome := action.outcome_perform p s
    rw [accepted, performAll, List.foldl_cons, ← performAll]
    cases called : action.perform (p, s) with
    | ok _ qt =>
      rw [called] at outcome
      dsimp only
      rw [List.foldlM_cons, outcome.state_of_ok]
      exact ih qt.1 qt.2
    | error e qt =>
      rw [called] at outcome
      dsimp only
      rw [← outcome.state_of_error]
      exact ih qt.1 qt.2

end Pipeline

/-! ### Whole cycles -/

namespace Session

variable {σ : Type} [ComputeApi σ]

theorem state_of_step_ok {s t : Session σ} {step : Step}
    (ran : step.operation.perform s = .ok () t) :
    s.pipeline.state.after? step = some t.pipeline.state := by
  have outcome := (s.action step).outcome_perform s.pipeline s.backend
  rw [perform_step, onPipeline, within_apply] at ran
  rw [step_action] at outcome
  cases called : (s.action step).perform (s.pipeline, s.backend) with
  | ok _ qu =>
    rw [called] at ran outcome
    cases ran
    exact outcome.state_of_ok
  | error e qu =>
    rw [called] at ran
    contradiction

theorem state_of_step_error {s t : Session σ} {step : Step} {e : SessionError}
    (failed : step.operation.perform s = .error e t) : t.pipeline.state = s.pipeline.state := by
  have outcome := (s.action step).outcome_perform s.pipeline s.backend
  rw [perform_step, onPipeline, within_apply] at failed
  cases called : (s.action step).perform (s.pipeline, s.backend) with
  | ok _ qu =>
    rw [called] at failed
    contradiction
  | error f qu =>
    rw [called] at failed outcome
    cases failed
    exact outcome.state_of_error

/-- The steps of a schedule that succeeds lead the automaton to where it ends. -/
theorem foldlM_run {s t : Session σ} {steps : List Step} (ran : run steps s = .ok () t) :
    steps.foldlM PipelineState.after? s.pipeline.state = some t.pipeline.state := by
  induction steps generalizing s with
  | nil =>
    cases ran
    rfl
  | cons step rest ih =>
    rw [run_cons] at ran
    cases first : step.operation.perform s with
    | error e u =>
      rw [first] at ran
      contradiction
    | ok _ u =>
      rw [first] at ran
      rw [List.foldlM_cons, state_of_step_ok first]
      exact ih ran

/-- A schedule that fails does so at one of its steps. -/
theorem exists_of_run_error {s t : Session σ} {steps : List Step} {e : SessionError}
    (failed : run steps s = .error e t) :
    ∃ done step rest u, done ++ step :: rest = steps ∧ run done s = .ok () u ∧
      step.operation.perform u = .error e t := by
  induction steps generalizing s with
  | nil => contradiction
  | cons step rest ih =>
    rw [run_cons] at failed
    cases first : step.operation.perform s with
    | error f u =>
      rw [first] at failed
      cases failed
      exact ⟨[], step, rest, s, rfl, rfl, first⟩
    | ok _ u =>
      rw [first] at failed
      obtain ⟨done, stopped, later, v, rfl, ran, here⟩ := ih failed
      exact ⟨step :: done, stopped, later, v, rfl, (run_cons_of_ok first done).trans ran, here⟩

/-- Where a whole cycle that fails has stopped: the steps `done` have succeeded, the next one has
failed, and the state is the one that the steps done lead to. Once all are done it is the measuring
that has failed. -/
structure StoppedAfter (done rest : List Step) (s : Session σ) (e : SessionError) (t : Session σ) :
    Prop where
  /-- These are the steps of a cycle. -/
  whole : done ++ rest = wholeCycle
  /-- The steps done have succeeded, and what comes next has failed. -/
  stopped : ∃ u, run done s = .ok () u ∧ match rest with
    | [] => metrics u = .error e t
    | step :: _ => step.operation.perform u = .error e t
  /-- The state is the one after the steps done. -/
  state : done.foldlM PipelineState.after? s.pipeline.state = some t.pipeline.state

theorem preserves_pipeline (p : Pipeline) :
    Preserves (fun s : Session σ => s.pipeline = p) Session.metrics :=
  Preserves.get.bind fun _ => preserves_onBackend fun _ _ same => same

theorem stoppedAfter_of_invoke_error {s t : Session σ} {e : SessionError}
    (failed : invoke s = .error e t) : ∃ done rest, StoppedAfter done rest s e t := by
  rw [invoke_apply] at failed
  cases ran : run wholeCycle s with
  | error f u =>
    rw [ran] at failed
    cases failed
    obtain ⟨done, step, rest, v, whole, before, here⟩ := exists_of_run_error ran
    refine ⟨done, step :: rest, whole, ⟨v, before, here⟩, ?_⟩
    rw [foldlM_run before, state_of_step_error here]
  | ok _ u =>
    rw [ran] at failed
    dsimp only at failed
    have same := preserves_pipeline u.pipeline u rfl
    rw [failed, stateOf_error] at same
    refine ⟨wholeCycle, [], List.append_nil _, ⟨u, ran, failed⟩, ?_⟩
    rw [foldlM_run ran, same]

/-- A pipeline keeps to its protocol on every backend, whichever requests fail. After any calls its
state is that of the automaton after those that succeeded; a call is refused as out of order exactly
if the automaton has no such step, and then nothing is changed and the backend is asked for nothing;
and a whole cycle that fails leaves the state of the last step that succeeded. -/
theorem follows_protocol :
    (∀ (s : σ) (actions : List Pipeline.Action),
      (Pipeline.accepted actions ({}, s)).foldlM PipelineState.after? .idle =
        some (Pipeline.performAll actions ({}, s)).1.state) ∧
    (∀ (p : Pipeline) (s : σ) (action : Pipeline.Action),
      ((∃ stage state t, action.perform (p, s) = .error (.outOfOrder stage state) t) ↔
        p.state.after? action.step = none) ∧
      (p.state.after? action.step = none →
        (∃ stage, action.step = .submit stage ∧
          action.perform (p, s) = .error (.outOfOrder stage p.state) (p, s)) ∧
        ∀ seen : Instrumented σ,
          (stateOf (action.perform (p, seen))).2.history = seen.history)) ∧
    ∀ (s t : Session σ) (e : SessionError), invoke s = .error e t →
      ∃ done rest, StoppedAfter done rest s e t := by
  refine ⟨fun s actions => Pipeline.foldlM_accepted actions {} s, fun p s action => ⟨?_, ?_⟩, ?_⟩
  · exact (action.outcome_perform p s).refused_iff
  · intro late
    refine ⟨(action.outcome_perform p s).eq_of_late late, fun seen => ?_⟩
    obtain ⟨stage, -, refused⟩ := (action.outcome_perform p seen).eq_of_late late
    rw [refused, stateOf_error]
  · exact fun s t e failed => stoppedAfter_of_invoke_error failed

end Session

end FpgaHost
