import FpgaHost.Proofs.Device.Commands
import FpgaHost.Proofs.Session.Decisions
import FpgaHost.Proofs.Session.Operations

/-!
# The cycles that a session submits

A cycle is known by the events that its stages were answered with, so the cycles of a session can be
read off the answers of its operations (`Session.cyclesOf`). Whatever the backend answers or
refuses, and whatever operations come in between, the records of a pipeline are those of the latest
cycle (`Linked`). So the commands that a backend accepts are those of the cycles, each with what it
has to wait for: the command of a load stage waits for nothing, and any other for the stage before
it in its cycle.

Main statement: `Recording.chained_performAll`.
-/

namespace FpgaHost

open Steps Attempt

/-! ### Cycles -/

/-- The events of a cycle: of those of its stages that were submitted and not skipped. -/
structure Cycle where
  /-- The event of the load stage. -/
  load : Option EventHandle
  /-- The event of the compute stage. -/
  compute : Option EventHandle := none
  /-- The event of the store stage. -/
  store : Option EventHandle := none
  deriving DecidableEq, Repr

namespace Cycle

/-- The event of a stage. -/
def event (c : Cycle) : Stage → Option EventHandle
  | .load => c.load
  | .compute => c.compute
  | .store => c.store

/-- The event that the command of a stage waits for: that of the stage before, if there is one. -/
def awaited (c : Cycle) : Stage → Option EventHandle
  | .load => none
  | .compute => c.load
  | .store => c.compute

/-- The command of a stage that was submitted and not skipped. -/
def command? (c : Cycle) (stage : Stage) : Option StageCommand :=
  (c.event stage).map fun event => ⟨stage, event, (c.awaited stage).toList⟩

/-- The commands of a cycle, the latest first. -/
def commands (c : Cycle) : List StageCommand := Stage.all.reverse.filterMap c.command?

/-- The cycles, the latest first, after a stage was submitted. The load stage begins a cycle. -/
def extend (cycles : List Cycle) : Stage × Option EventHandle → List Cycle
  | (.load, event) => { load := event } :: cycles
  | (.compute, event) => cycles.modifyHead fun c => { c with compute := event }
  | (.store, event) => cycles.modifyHead fun c => { c with store := event }

end Cycle

namespace Session

variable {σ : Type} [ComputeApi σ]

/-- Submits a stage; answers its event unless it is skipped. -/
def submit : Stage → Attempt (Session σ) (Option EventHandle)
  | .load => write
  | .compute => some <$> execute
  | .store => read

/-- What stages answer that are submitted one after the other, up to the first that fails. -/
def answers : List Stage → Session σ → List (Stage × Option EventHandle)
  | [], _ => []
  | stage :: rest, s =>
    match submit stage s with
    | .ok event t => (stage, event) :: answers rest t
    | .error _ _ => []

/-- The cycles, the latest first, after some operations, whether they succeed or not. -/
def cyclesAfter (cycles : List Cycle) : List Operation → Session σ → List Cycle
  | [], _ => cycles
  | operation :: rest, s =>
    cyclesAfter ((answers operation.stages s).foldl Cycle.extend cycles) rest
      (stateOf (operation.perform s))

/-- The cycles that some operations submit, the latest first. -/
def cyclesOf (s : Session σ) (operations : List Operation) : List Cycle := cyclesAfter [] operations s

theorem perform_submit (stage : Stage) (s : Session σ) :
    (Step.submit stage).operation.perform s = discard (submit stage) s := by
  cases stage with
  | load => rfl
  | store => rfl
  | compute =>
    have mapped : submit .compute s = (execute >>= fun event => pure (some event)) s := rfl
    have perform : (Step.submit .compute).operation.perform s = discard execute s := rfl
    rw [perform, discard_apply, discard_apply, mapped, bind_apply]
    cases execute s <;> rfl

end Session

/-! ### Pipelines and cycles -/

namespace Pipeline

variable {cycles : List Cycle} {p : Pipeline} {event : EventHandle}

/-- The records of a pipeline are those of the latest cycle. -/
structure Linked (cycles : List Cycle) (p : Pipeline) : Prop where
  /-- An event that is held is one of the latest cycle. -/
  held : ∀ stage event, p.event stage = some event →
    ∃ c, cycles.head? = some c ∧ c.event stage = some event
  /-- After its load stage a cycle has the event that is held for it. -/
  loaded : p.state = .loaded → ∃ rest, cycles = { load := p.event .load } :: rest
  /-- After its compute stage a cycle has the event that is held for it. -/
  computed : p.state = .computed → ∃ load event rest, p.event .compute = some event ∧
    cycles = { load, compute := some event } :: rest
  /-- A cycle that was stored was computed. -/
  whole : ∀ c ∈ cycles, c.store.isSome → c.compute.isSome

theorem linked_nil : Linked [] {} where
  held stage event there := by cases stage <;> contradiction
  loaded state := by contradiction
  computed state := by contradiction
  whole c mem := absurd mem List.not_mem_nil

namespace Linked

/-- Between two cycles events may be forgotten. -/
theorem withoutEvent (linked : Linked cycles p)
    (ready : Stage.load.startsFrom.contains p.state = true) (stage : Stage) :
    Linked cycles (p.withoutEvent stage) := by
  have state : (p.withoutEvent stage).state = p.state := by cases stage <;> rfl
  refine ⟨fun other event there => ?_, fun loaded => ?_, fun computed => ?_, linked.whole⟩
  · rw [event_withoutEvent] at there
    split at there
    · contradiction
    · exact linked.held other event there
  · rw [← state, loaded] at ready
    contradiction
  · rw [← state, computed] at ready
    contradiction

theorem load (linked : Linked cycles p) (event : Option EventHandle) (bytes : Nat) :
    Linked (Cycle.extend cycles (.load, event)) (p.submitted .load { event, bytes }) where
  held stage other there := by
    rw [event_submitted] at there
    refine ⟨_, rfl, ?_⟩
    cases stage with
    | load => exact there
    | compute => contradiction
    | store => contradiction
  loaded _ := ⟨cycles, rfl⟩
  computed state := by contradiction
  whole c mem stored := by
    rcases List.mem_cons.1 mem with rfl | mem
    · contradiction
    · exact linked.whole c mem stored

theorem compute (linked : Linked cycles p) (loaded : p.state = .loaded) (event : EventHandle)
    (bytes : Nat) :
    Linked (Cycle.extend cycles (.compute, some event))
      (p.submitted .compute { event := some event, bytes }) := by
  obtain ⟨rest, rfl⟩ := linked.loaded loaded
  refine ⟨fun stage other there => ?_, fun state => ?_, fun _ => ?_, fun c mem stored => ?_⟩
  · rw [event_submitted] at there
    refine ⟨_, rfl, ?_⟩
    cases stage with
    | load => exact there
    | compute => exact there
    | store =>
      obtain ⟨c, head, stored⟩ := linked.held .store other there
      cases head
      contradiction
  · contradiction
  · exact ⟨_, event, rest, rfl, rfl⟩
  · rcases List.mem_cons.1 mem with rfl | mem
    · rfl
    · exact linked.whole c (List.mem_cons_of_mem _ mem) stored

theorem store (linked : Linked cycles p) (computed : p.state = .computed)
    (event : Option EventHandle) (bytes : Nat) :
    Linked (Cycle.extend cycles (.store, event)) (p.submitted .store { event, bytes }) := by
  obtain ⟨load, before, rest, held, rfl⟩ := linked.computed computed
  refine ⟨fun stage other there => ?_, fun state => ?_, fun state => ?_, fun c mem stored => ?_⟩
  · rw [event_submitted] at there
    refine ⟨_, rfl, ?_⟩
    cases stage with
    | store => exact there
    | load =>
      obtain ⟨c, head, same⟩ := linked.held .load other there
      cases head
      exact same
    | compute =>
      obtain ⟨c, head, same⟩ := linked.held .compute other there
      cases head
      exact same
  · contradiction
  · contradiction
  · rcases List.mem_cons.1 mem with rfl | mem
    · rfl
    · exact linked.whole c (List.mem_cons_of_mem _ mem) stored

theorem finished (linked : Linked cycles p) :
    Linked cycles { p with state := p.state.finished } where
  held := linked.held
  loaded state := by
    refine linked.loaded ?_
    revert state
    dsimp only
    cases p.state <;> decide
  computed state := by
    refine linked.computed ?_
    revert state
    dsimp only
    cases p.state <;> decide
  whole := linked.whole

end Linked

end Pipeline

/-! ### Commands -/

section
variable {σ : Type}

/-- The records of a pipeline are those of the latest cycle, and a property holds of the commands of
all cycles. -/
def Pipeline.Chained (H : List StageCommand → σ → Prop) (cycles : List Cycle) (ps : Pipeline × σ) :
    Prop := Linked cycles ps.1 ∧ H (cycles.flatMap Cycle.commands) ps.2

/-- So it is for the pipeline of a session. -/
def Session.Chained (H : List StageCommand → σ → Prop) (cycles : List Cycle) (s : Session σ) :
    Prop := Pipeline.Chained H cycles (s.pipeline, s.backend)

/-- What holds of a pipeline after an attempt on it holds of that of its session. -/
theorem Session.ensures_onPipeline {α : Type} {H : List StageCommand → σ → Prop}
    {cycles : List Cycle} {x : Attempt (Pipeline × σ) α} {after : α → List Cycle}
    (ensures : Ensures (Pipeline.Chained H cycles) x (fun a => Pipeline.Chained H (after a))
      (fun _ => Pipeline.Chained H cycles)) :
    Ensures (Session.Chained H cycles) (onPipeline x) (fun a => Session.Chained H (after a))
      (fun _ => Session.Chained H cycles) := by
  intro s chained
  have holds := ensures (s.pipeline, s.backend) chained
  rw [onPipeline, within_apply]
  cases outcome : x (s.pipeline, s.backend) <;> rw [outcome] at holds <;> exact holds

end

namespace Recording

variable {σ : Type} [ComputeApi σ] {H : List StageCommand → σ → Prop} {done : List StageCommand}
  {cycles : List Cycle} (recording : Recording H)
include recording

theorem ensures_ask (r : Request) :
    Ensures (H done) (ask r) (fun answer => H (r.commands (.ok answer) ++ done))
      (fun _ => H done) := by
  intro s h
  rw [ask_apply]
  cases outcome : ComputeApi.call r s with
  | ok answer t => exact recording.answered outcome h
  | error status t => exact recording.refused outcome h

theorem ensures_submitMigration (queue : QueueHandle) (buffers : List BufferHandle)
    (direction : Direction) (wait : List EventHandle) :
    Ensures (H done) (Pipeline.submitMigration queue buffers direction wait)
      (fun event => H (event.toList.map (⟨direction.stage, ·, wait⟩) ++ done))
      (fun _ => H done) :=
  Pipeline.ensures_submitMigration
    (recording.ensures_ask (.enqueueMigrate queue buffers direction wait)) fun _ h => h

/-! ### The pipeline -/

section
open Pipeline

/-- The load stage begins a cycle with a command that waits for nothing. -/
theorem ensures_write (queue : QueueHandle) (m : BufferManager) :
    Ensures (Pipeline.Chained H cycles) (write queue m)
      (fun event => Pipeline.Chained H (Cycle.extend cycles (.load, event)))
      (fun _ => Pipeline.Chained H cycles) := by
  rintro ⟨p, s⟩ chained
  rw [write_eq]
  by_cases ready : Stage.load.startsFrom.contains p.state = true
  · rw [if_pos ready]
    have released := Session.preserves_releaseHeld
      (Q := fun ps : Pipeline × σ =>
        Stage.load.startsFrom.contains ps.1.state = true ∧ Pipeline.Chained H cycles ps)
      (fun e p b kept => ⟨kept.1, kept.2.1, recording.idle kept.2.2 fun _ => rfl⟩)
      (fun p stage b kept => ⟨by cases stage <;> exact kept.1,
        kept.2.1.withoutEvent kept.1 stage, kept.2.2⟩) (p, s) ⟨ready, chained⟩
    cases gave : releaseHeld (p, s) with
    | error e qt =>
      rw [gave] at released
      exact released.2
    | ok _ qt =>
      obtain ⟨q, t⟩ := qt
      rw [gave] at released
      obtain ⟨-, linked, h⟩ := released
      have migrated := recording.ensures_submitMigration queue m.loadHandles .toDevice [] t h
      dsimp only
      cases outcome : submitMigration queue m.loadHandles .toDevice [] t with
      | error e u =>
        rw [outcome] at migrated
        exact ⟨linked, migrated⟩
      | ok event u =>
        rw [outcome] at migrated
        refine ⟨linked.load event m.loadBytes, ?_⟩
        cases event <;> exact migrated
  · rw [if_neg ready]
    exact chained

/-- The compute stage waits for the load stage of its cycle. -/
theorem ensures_execute (queue : QueueHandle) (kernel : KernelHandle) :
    Ensures (Pipeline.Chained H cycles) (execute queue kernel)
      (fun event => Pipeline.Chained H (Cycle.extend cycles (.compute, some event)))
      (fun _ => Pipeline.Chained H cycles) := by
  rintro ⟨p, s⟩ ⟨linked, h⟩
  rw [execute_eq]
  by_cases ready : Stage.compute.startsFrom.contains p.state = true
  · rw [if_pos ready]
    have loaded : p.state = .loaded := by simpa [Stage.startsFrom] using ready
    have asked := recording.ensures_ask (.enqueueTask queue kernel p.load.event.toList) s h
    have later := linked.compute loaded
    obtain ⟨rest, rfl⟩ := linked.loaded loaded
    cases outcome : ask (.enqueueTask queue kernel p.load.event.toList) s with
    | error e t =>
      rw [outcome] at asked
      exact ⟨linked, asked⟩
    | ok event t =>
      rw [outcome] at asked
      exact ⟨later event 0, asked⟩
  · rw [if_neg ready]
    exact ⟨linked, h⟩

/-- The store stage waits for the compute stage of its cycle. -/
theorem ensures_read (queue : QueueHandle) (m : BufferManager) :
    Ensures (Pipeline.Chained H cycles) (read queue m)
      (fun event => Pipeline.Chained H (Cycle.extend cycles (.store, event)))
      (fun _ => Pipeline.Chained H cycles) := by
  rintro ⟨p, s⟩ ⟨linked, h⟩
  rw [read_eq]
  by_cases ready : Stage.store.startsFrom.contains p.state = true
  · rw [if_pos ready]
    have computed : p.state = .computed := by simpa [Stage.startsFrom] using ready
    have migrated := recording.ensures_submitMigration queue m.storeHandles .toHost
      p.compute.event.toList s h
    have later := linked.store computed
    obtain ⟨load, before, rest, held, rfl⟩ := linked.computed computed
    cases outcome : submitMigration queue m.storeHandles .toHost p.compute.event.toList s with
    | error e t =>
      rw [outcome] at migrated
      exact ⟨linked, migrated⟩
    | ok event t =>
      rw [outcome] at migrated
      have held : p.compute.event = some before := held
      rw [held] at migrated
      refine ⟨later event m.storeBytes, ?_⟩
      cases event <;> exact migrated
  · rw [if_neg ready]
    exact ⟨linked, h⟩

theorem chained_finish (queue : QueueHandle) :
    Preserves (Pipeline.Chained H cycles) (finish queue) := by
  rintro ⟨p, s⟩ ⟨linked, h⟩
  have flushed := recording.ensures_ask (.flush queue) s h
  rw [finish_eq]
  cases outcome : ask (.flush queue) s with
  | error e t =>
    rw [outcome] at flushed
    exact ⟨linked, flushed⟩
  | ok _ t =>
    rw [outcome] at flushed
    have waited := recording.ensures_ask (.finish queue) t flushed
    dsimp only
    cases outcome : ask (.finish queue) t with
    | error e u =>
      rw [outcome] at waited
      exact ⟨linked, waited⟩
    | ok _ u =>
      rw [outcome] at waited
      exact ⟨linked.finished, waited⟩

end

/-! ### Sessions -/

section
open Session

/-- A stage that is submitted extends the cycles by its answer; one that fails leaves them. -/
theorem ensures_submit (stage : Stage) :
    Ensures (Session.Chained H cycles) (submit stage)
      (fun event => Session.Chained H (Cycle.extend cycles (stage, event)))
      (fun _ => Session.Chained H cycles) := by
  intro s chained
  cases stage with
  | load => exact ensures_onPipeline (recording.ensures_write s.device.queue s.buffers) s chained
  | store => exact ensures_onPipeline (recording.ensures_read s.device.queue s.buffers) s chained
  | compute =>
    have executed := ensures_onPipeline
      (recording.ensures_execute s.device.queue s.device.kernel) s chained
    have mapped : submit .compute s = (execute >>= fun event => pure (some event)) s := rfl
    have execute : execute s = onPipeline (Pipeline.execute s.device.queue s.device.kernel) s := rfl
    rw [mapped, bind_apply, execute]
    cases outcome : onPipeline (Pipeline.execute s.device.queue s.device.kernel) s <;>
      rw [outcome] at executed <;> exact executed

/-- Stages that are submitted one after the other extend the cycles by their answers, up to the
first that fails. -/
theorem chained_run {s : Session σ} (chained : s.Chained H cycles) (stages : List Stage) :
    Session.Chained H ((answers stages s).foldl Cycle.extend cycles)
      (stateOf (run (stages.map .submit) s)) := by
  induction stages generalizing cycles s with
  | nil => exact chained
  | cons stage rest ih =>
    have submitted := recording.ensures_submit stage s chained
    rw [List.map_cons, run_cons, perform_submit, discard_apply, answers]
    cases outcome : submit stage s with
    | error e t =>
      rw [outcome] at submitted
      exact submitted
    | ok event t =>
      rw [outcome] at submitted
      exact ih submitted

theorem chained_step_finish :
    Preserves (Session.Chained H cycles) (Step.finish.operation.perform (σ := σ)) :=
  preserves_of_action fun s => recording.chained_finish s.device.queue

theorem chained_run_finish : Preserves (Session.Chained H cycles) (run (σ := σ) [.finish]) := by
  intro s chained
  rw [stateOf_run_singleton]
  exact recording.chained_step_finish s chained

theorem chained_plain (r : Request) (plain : r.isPlain) (s : Session σ)
    (chained : s.Chained H cycles) :
    Session.Chained H cycles { s with backend := r.after s.backend } :=
  ⟨chained.1, recording.idle chained.2
    (Request.commands_of_queue?_eq_none (Request.queue?_of_isPlain plain))⟩

/-- An operation extends the cycles by the answers of the stages that it submits. -/
theorem chained_perform {s : Session σ} (chained : s.Chained H cycles) (operation : Operation) :
    Session.Chained H ((answers operation.stages s).foldl Cycle.extend cycles)
      (stateOf (operation.perform s)) := by
  have submitted := recording.chained_run chained operation.stages
  by_cases unstaged : operation.stages = []
  · have create : ∀ request, Preserves (Session.Chained H cycles) (createBuffer (σ := σ) request) :=
      preserves_createBuffer
        (fun r s none chained =>
          ⟨chained.1, recording.idle chained.2 (Request.commands_of_queue?_eq_none none)⟩)
        fun s m chained => chained
    rw [unstaged]
    exact preserves_unstaged recording.chained_plain operation unstaged (fun request _ => create request)
      recording.chained_step_finish s chained
  · cases operation with
    | write => exact stateOf_run_singleton (.submit .load) s ▸ submitted
    | execute => exact stateOf_run_singleton (.submit .compute) s ▸ submitted
    | read => exact stateOf_run_singleton (.submit .store) s ▸ submitted
    | invoke =>
      have stages : Operation.invoke.stages = Stage.all := rfl
      rw [stages] at submitted ⊢
      rw [Operation.perform, stateOf_discard, invoke_apply, wholeCycle, run_append]
      cases ran : run (Stage.all.map .submit) s with
      | error e t =>
        rw [ran] at submitted
        exact submitted
      | ok _ t =>
        rw [ran] at submitted
        have measured := (recording.chained_run_finish.bind fun _ =>
          preserves_cycleMetrics recording.chained_plain) t submitted
        rw [bind_apply] at measured
        dsimp only
        cases outcome : run [Step.finish] t <;> rw [outcome] at measured <;> exact measured
    | _ => exact absurd rfl unstaged

/-- After any operations, the commands that the backend has accepted are those of their cycles. -/
theorem chained_performAll {s : Session σ} (chained : s.Chained H cycles)
    (operations : List Operation) :
    (s.performAll operations).Chained H (cyclesAfter cycles operations s) := by
  induction operations generalizing cycles s with
  | nil => exact chained
  | cons operation rest ih => exact ih (recording.chained_perform chained operation)

end

end Recording

end FpgaHost
