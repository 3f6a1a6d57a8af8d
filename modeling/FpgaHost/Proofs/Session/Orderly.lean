import FpgaHost.Proofs.Session.Cycles
import FpgaHost.Proofs.Session.Measured
import FpgaHost.Proofs.Session.Protocol

/-!
# Runs that behave well

A finish fails if some pending command waits for an event whose record is gone or has not ended, or
names a buffer that was freed. A session is orderly (`Orderly`) if this cannot happen: all that is
pending on its queue can run, and the events it holds have ended or are pending. Every operation
keeps a session orderly, in whatever order the stages are submitted, with one exception: a new
buffer must not replace one that a pending migration moves.

Main statements: `orderly_perform` (what one operation keeps), `orderly_of_wellBehaved` (what a
history keeps) and `finish_succeeds`.
-/

namespace FpgaHost

open Steps Attempt

/-- Whether a command moves a buffer. -/
def Command.Moves (command : Command) (b : BufferHandle) : Prop :=
  match command with
  | .migrate buffers _ => b ∈ buffers
  | .task _ => False

/-! ### Requests that reach no queue -/

namespace Simulator

variable {s t : Simulator} {r : Request} {before events : List EventHandle}

/-- The same commands are pending in another state, and the records of events are the same. What
the commands name may have changed. -/
structure SameWork (s t : Simulator) : Prop where
  /-- The records are the same. -/
  events : t.events = s.events
  /-- The queues are the same. -/
  queues : t.queues = s.queues

/-- Commands that were able to run still are if what they name is still there. -/
theorem SameWork.runnable (same : SameWork s t)
    (ready : ∀ e ∈ events, ∀ r, s.events.get? e = some r → s.Ready r.command → t.Ready r.command)
    (runnable : s.Runnable before events) : t.Runnable before events := by
  induction events generalizing before with
  | nil => trivial
  | cons event rest ih =>
    obtain ⟨⟨r, found, able, waits⟩, later⟩ := runnable
    have still := ready event List.mem_cons_self r found able
    refine ⟨⟨r, by rw [same.events, found], still, fun w mem => ?_⟩,
      ih (fun e mem => ready e (List.mem_cons_of_mem event mem)) later⟩
    rw [Ended, execution?, same.events]
    exact waits w mem

/-- A plain request leaves all that is pending, and whatever could run. -/
theorem sameWork_plain (s : Simulator) (plain : r.isPlain) :
    SameWork s (s.next r) ∧ ∀ command, s.Ready command → (s.next r).Ready command := by
  have does := does_next s r
  generalize s.next r = t at does
  cases does with
  | nothing => exact ⟨⟨rfl, rfl⟩, fun _ ready => ready⟩
  | createStream => exact ⟨⟨rfl, rfl⟩, fun _ ready => ready⟩
  | setKernelArg kernel index value =>
    refine ⟨⟨rfl, rfl⟩, fun command ready => ?_⟩
    cases command with
    | migrate buffers direction => exact ready
    | task k => exact (Table.contains_modify s.kernels k kernel _).trans ready
  | overwriteHost buffer offset data =>
    refine ⟨⟨rfl, rfl⟩, fun command ready => ?_⟩
    cases command with
    | migrate buffers direction =>
      exact fun b mem => (Table.contains_modify s.buffers b buffer _).trans (ready b mem)
    | task k => exact ready
  | submit loud => cases r <;> contradiction
  | stop loud => cases r <;> contradiction
  | start loud => cases r <;> contradiction
  | _ => contradiction

/-- A new buffer stands in no command's way. -/
theorem ready_allocated (allocation : Allocation) (host : Option Bytes) {command : Command}
    (ready : s.Ready command) : (s.allocated allocation host).Ready command := by
  cases command with
  | migrate buffers direction => exact fun b mem => Table.contains_insert.2 (.inr (ready b mem))
  | task kernel => exact ready

/-- Freeing a buffer leaves all that is pending, and whatever could run without moving it. -/
theorem sameWork_freed (s : Simulator) (b : BufferHandle) :
    SameWork s (s.next (.releaseBuffer b)) ∧ ∀ command, ¬ command.Moves b → s.Ready command →
      (s.next (.releaseBuffer b)).Ready command := by
  have does := does_next s (.releaseBuffer b)
  generalize s.next (.releaseBuffer b) = t at does
  cases does with
  | nothing => exact ⟨⟨rfl, rfl⟩, fun _ _ ready => ready⟩
  | releaseBuffer =>
    refine ⟨⟨rfl, rfl⟩, fun command unused ready => ?_⟩
    cases command with
    | migrate buffers direction =>
      refine fun c mem => Table.contains_erase.2 ⟨?_, ready c mem⟩
      rintro rfl
      exact unused mem
    | task kernel => exact ready
  | submit loud => contradiction
  | stop loud => contradiction
  | start loud => contradiction

end Simulator

namespace Session

/-! ### Orderly sessions -/

section
variable {s t : Session Simulator}

/-- All that is pending on the queue of a session can run, and the events that it holds have ended
or are pending. -/
def Orderly (s : Session Simulator) : Prop :=
  ∃ memory, Staged s.device s.buffers s.backend.effect memory s

theorem Staged.orderly {d : BoundDevice} {m : BufferManager} {acts : Command → Memory → Memory}
    {memory : Memory} (staged : Staged d m acts memory s) : s.Orderly := by
  obtain ⟨⟨rfl, rfl, pipeline⟩, awaited⟩ := staged
  obtain rfl := pipeline.acts
  exact ⟨memory, ⟨rfl, rfl, pipeline⟩, awaited⟩

/-- A session whose pending commands are the same and can still run is orderly if it is sound. -/
theorem Orderly.sameWork (orderly : s.Orderly) {m : BufferManager} {b : Simulator}
    (sound : Sound { s with buffers := m, backend := b }) (same : s.backend.SameWork b)
    (ready : ∀ e ∈ s.backend.pendingOf s.device.queue, ∀ r, s.backend.events.get? e = some r →
      s.backend.Ready r.command → b.Ready r.command) :
    Orderly { s with buffers := m, backend := b } := by
  obtain ⟨memory, staged⟩ := orderly
  have pending : b.pendingOf s.device.queue = s.backend.pendingOf s.device.queue := by
    rw [Simulator.pendingOf, Simulator.pendingOf, same.queues]
  have underway : b.Underway s.device.queue (b.prospect s.device.queue) := by
    refine ⟨sound.1.queue, ?_, rfl⟩
    rw [pending]
    exact same.runnable ready staged.running.pipeline.underway.runnable
  have awaited : s.pipeline.Awaited s.device.queue b := by
    intro stage event there
    rw [Simulator.Ended, Simulator.execution?, same.events, pending]
    exact staged.awaited stage event there
  exact ⟨_, ⟨rfl, rfl, sound, underway, fun _ => awaited, rfl⟩, awaited⟩

/-! ### What operations keep -/

/-- A stage that is out of order is refused, and nothing changes. -/
theorem perform_of_late {stage : Stage}
    (late : stage.startsFrom.contains s.pipeline.state = false) :
    (Step.submit stage).operation.perform s =
      .error (.outOfOrder stage s.pipeline.state) s := by
  have outcome := (s.action (.submit stage)).outcome_perform s.pipeline s.backend
  rw [step_action] at outcome
  obtain ⟨named, same, refused⟩ := outcome.eq_of_late (PipelineState.after?_of_late late)
  cases same
  rw [perform_step, onPipeline, within_apply, refused]

/-- Every step of a cycle keeps a session orderly, in order or not. -/
theorem preserves_orderly_step (step : Step) : Preserves Orderly step.operation.perform := by
  intro s orderly
  obtain ⟨memory, staged⟩ := orderly
  cases step with
  | finish =>
    obtain ⟨t, ran, later, -⟩ := staged.finish
    rw [ran]
    exact later.orderly
  | submit stage =>
    cases ready : stage.startsFrom.contains s.pipeline.state with
    | false =>
      rw [perform_of_late ready]
      exact staged.orderly
    | true =>
      obtain ⟨t, ran, -, later⟩ := staged.running.submit stage ready
      rw [ran]
      exact later.orderly

/-- A buffer that some argument had and that none has any more. -/
def Replaced (s t : Session Simulator) (b : BufferHandle) : Prop :=
  (∃ index c, s.buffers.buffers.get? index = some c ∧ c.handle = b) ∧
    ∀ index c, t.buffers.buffers.get? index = some c → c.handle ≠ b

/-- A migration that is pending on the queue of a session moves a buffer. -/
def Moving (s : Session Simulator) (b : BufferHandle) : Prop :=
  ∃ event ∈ s.backend.pendingOf s.device.queue, ∃ r, s.backend.events.get? event = some r ∧
    r.command.Moves b

/-- A new buffer keeps a session orderly unless it replaces one that is about to be moved. -/
theorem orderly_createBuffer (orderly : s.Orderly) (request : BufferRequest)
    (free : ∀ b, Replaced s (stateOf (createBuffer request s)) b → ¬ s.Moving b) :
    (stateOf (createBuffer request s)).Orderly := by
  obtain ⟨memory, staged⟩ := orderly
  have sound : s.Sound := staged.running.pipeline.good
  have after := Preserves.of_discard (preserves_perform (.createBuffer request)) s sound
  have left : stateOf (createBuffer request s) = { s with
      buffers := (stateOf (BufferManager.create s.device.context s.args request
        (s.buffers, s.backend))).1
      backend := (stateOf (BufferManager.create s.device.context s.args request
        (s.buffers, s.backend))).2 } := by
    rw [createBuffer, get_bind, onBuffers, stateOf_within]
  have created := BufferManager.created_create s.device.context s.args request s.buffers s.backend
  rw [left] at after free ⊢
  generalize stateOf (BufferManager.create s.device.context s.args request
    (s.buffers, s.backend)) = mb at created after free ⊢
  cases created with
  | refused => exact staged.orderly
  | added allocation new long access none =>
    exact staged.orderly.sameWork after ⟨rfl, rfl⟩ fun _ _ _ _ =>
      Simulator.ready_allocated allocation request.host
  | @replaced b old allocation new long access had =>
    -- The new buffer has a number of its own, so the one that is freed is no argument's any more;
    -- by assumption no pending migration moves it.
    obtain ⟨same, ready⟩ := (s.backend.allocated allocation request.host).sameWork_freed old.handle
    refine staged.orderly.sameWork after ⟨same.events, same.queues⟩ fun e pending r found able => ?_
    refine ready r.command (fun moves => ?_) (Simulator.ready_allocated allocation request.host able)
    have gone := sound.1.buffers.replaced sound.1.numbered.buffers new had
    exact free old.handle ⟨⟨_, old, had, rfl⟩, gone⟩ ⟨e, pending, r, found, moves⟩

/-- Every operation keeps a session orderly unless it replaces a buffer that is about to be
moved. -/
theorem orderly_perform (orderly : s.Orderly) (operation : Operation)
    (free : ∀ b, Replaced s (stateOf (operation.perform s)) b → ¬ s.Moving b) :
    (stateOf (operation.perform s)).Orderly := by
  -- The condition is about this state only, so a new buffer is not a case of `preserves_operation`.
  by_cases creates : ∃ request, operation = .createBuffer request
  · obtain ⟨request, rfl⟩ := creates
    rw [Operation.perform, stateOf_discard] at free ⊢
    exact orderly_createBuffer orderly request free
  · refine preserves_operation (fun r plain v orderly => ?_) operation
      (fun request same => absurd ⟨request, same⟩ creates) preserves_orderly_step s orderly
    obtain ⟨memory, staged⟩ := orderly
    obtain ⟨same, ready⟩ := v.backend.sameWork_plain plain
    obtain ⟨events, buffers⟩ := Request.gives_nothing_back plain
    have sound := staged.running.pipeline.good.next events buffers
    exact staged.orderly.sameWork sound same fun _ _ r _ => ready r.command

/-! ### Histories -/

/-- A session that begins is orderly: nothing is pending and it holds no event. -/
theorem orderly_of_start {image : Image} {config : SessionConfig} {backend : Simulator}
    (numbered : backend.Numbered) (started : start image config backend = .ok s) : s.Orderly := by
  have sound := sound_of_start started numbered
  obtain ⟨-, pipeline⟩ := new_of_start started
  have idle := idle_of_start started
  have awaited : s.pipeline.Awaited s.device.queue s.backend := by
    intro stage event there
    rw [pipeline] at there
    cases stage <;> contradiction
  exact ⟨_, running_of_sound sound idle (by rw [pipeline]; rfl), awaited⟩

/-- The sessions that some history leads to in which no buffer is replaced while a migration that
moves it is pending. The operations may come in any order and any of them may fail. -/
inductive WellBehaved : Session Simulator → Prop
  /-- It begins. -/
  | start {backend : Simulator} {image : Image} {config : SessionConfig} {s : Session Simulator}
      (reachable : backend.Reachable) (started : start image config backend = .ok s) : WellBehaved s
  /-- One more operation. -/
  | perform {s : Session Simulator} (behaved : WellBehaved s) (operation : Operation)
      (free : ∀ b, Replaced s (stateOf (operation.perform s)) b → ¬ s.Moving b) :
      WellBehaved (stateOf (operation.perform s))

theorem WellBehaved.reachable (behaved : s.WellBehaved) : s.Reachable := by
  induction behaved with
  | start reachable started => exact .start reachable started
  | perform _ operation _ ih => exact .perform ih operation

/-- Every session that a history of this kind leads to is orderly. -/
theorem orderly_of_wellBehaved (behaved : s.WellBehaved) : s.Orderly := by
  induction behaved with
  | start reachable started => exact orderly_of_start reachable.numbered started
  | perform _ operation free ih => exact orderly_perform ih operation free

/-! ### Finishing -/

/-- Finishing never fails in a well-behaved run. Whatever operations came before, in order or not, a
finish succeeds and leaves nothing pending, and if times are recorded all that can be asked about
the stages is answered afterwards. A whole cycle is refused only where the load stage is out of
order, and otherwise all its steps succeed, the finish among them, and then it can be measured. -/
theorem finish_succeeds (behaved : s.WellBehaved) :
    (∃ t, finish s = .ok () t ∧ t.backend.pendingOf s.device.queue = [] ∧
      (s.config.queue.profiling = true → ∃ measured, t.Measured measured)) ∧
    (Stage.load.startsFrom.contains s.pipeline.state = false →
      invoke s = .error (.outOfOrder .load s.pipeline.state) s) ∧
    (Stage.load.startsFrom.contains s.pipeline.state = true → ∃ t, run wholeCycle s = .ok () t ∧
      (s.config.queue.profiling = true → ∃ measured, t.Measured measured ∧
        invoke s = .ok measured t)) := by
  obtain ⟨memory, staged⟩ := orderly_of_wellBehaved behaved
  have measured : ∀ {steps : List Step} {t : Session Simulator}, run steps s = .ok () t →
      t.pipeline.Over t.backend → s.config.queue.profiling = true →
      ∃ measured, t.Measured measured := by
    intro steps t ran past profiling
    obtain ⟨reached, told⟩ := run_ok behaved.reachable ran
    exact measured_of_over reached (told ▸ profiling) past
  refine ⟨?_, fun late => ?_, fun ready => ?_⟩
  · obtain ⟨t, finished, -, -, idle, past⟩ := staged.finish
    exact ⟨t, finished, idle, measured (run_cons_of_ok finished []) past⟩
  · rw [invoke_apply, wholeCycle, Stage.all, List.map_cons, List.cons_append, run_cons,
      perform_of_late late]
  · obtain ⟨t, ran, -, -, past⟩ := run_wholeCycle staged.running ready
    refine ⟨t, ran, fun profiling => ?_⟩
    obtain ⟨answers, asked⟩ := measured ran past profiling
    refine ⟨answers, asked, ?_⟩
    rw [invoke_apply, ran]
    exact asked.metrics

theorem not_replaced (same : t.buffers = s.buffers) (b : BufferHandle) : ¬ Replaced s t b := by
  rintro ⟨⟨index, c, had, handle⟩, gone⟩
  rw [same] at gone
  exact gone index c had handle

end

/-- The session with a load stage under way. -/
def loading : Session Simulator := stateOf (Operation.write.perform counting)

theorem wellBehaved_loading : loading.WellBehaved := by
  obtain ⟨backend, image, config, reachable, started⟩ := start_twoBanks _
  have empty : ∀ t b, ¬ Replaced incrementing t b := by
    rintro t b ⟨⟨index, c, had, -⟩, -⟩
    contradiction
  have created := (WellBehaved.start reachable started).perform
    (.createBuffer (.ofHost 0 .readWrite (.ofList [7]))) fun b replaced _ => empty _ b replaced
  have bound := created.perform (.setBuffer 0) fun b replaced _ => not_replaced rfl b replaced
  exact bound.perform .write fun b replaced _ => not_replaced rfl b replaced

theorem finish_succeeds_loading :
    loading.WellBehaved ∧ loading.pipeline.state = .loaded ∧
    ∃ t, finish loading = .ok () t ∧ t.backend.pendingOf loading.device.queue = [] ∧
      ∃ measured, t.Measured measured := by
  obtain ⟨⟨t, finished, idle, answers⟩, -⟩ := finish_succeeds wellBehaved_loading
  exact ⟨wellBehaved_loading, rfl, t, finished, idle, answers rfl⟩

/-- A finish may fail once the buffer that is about to be loaded is replaced. -/
example : ∃ t, finish (stateOf ((Operation.createBuffer (.ofHost 0 .readWrite (.ofList [8]))).perform
    loading)) = .error (.call .flush .invalidMemObject) t := ⟨_, rfl⟩

end Session

end FpgaHost
