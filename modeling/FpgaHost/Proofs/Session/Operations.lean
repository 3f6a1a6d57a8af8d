import FpgaHost.Proofs.Session.Attempts

/-!
# Operations of a session

Everything that can be done with a session, as data, so that histories of a session are lists of
operations. On its backend an operation asks for the stages of the pipeline, for a new buffer, or
for plain requests only: requests that neither take anything into use nor give anything back nor
reach a queue.

Main statements: `preserves_operation`, the principle by which whatever these few steps keep is kept
by every operation, whether it succeeds or not, and `preserves_of_requests`, by which whatever is
kept by every request that reaches no other queue is.
-/

namespace FpgaHost

open Steps Attempt

/-- Whether a request takes nothing into use, gives nothing back and reaches no queue. -/
def Request.isPlain : Request → Bool
  | .setKernelArg _ _ _ => true
  | .hostMemory _ => true
  | .overwriteHost _ _ _ => true
  | .profilingInfo _ _ => true
  | .createStream _ _ _ _ => true
  | _ => false

theorem Request.gives_nothing_back {r : Request} (plain : r.isPlain) :
    (∀ e, r ≠ .releaseEvent e) ∧ ∀ b, r ≠ .releaseBuffer b := by
  constructor <;> rintro _ rfl <;> contradiction

theorem Request.queue?_of_isPlain {r : Request} (plain : r.isPlain) : r.queue? = none := by
  cases r <;> first | rfl | contradiction

/-! ### Steps and calls -/

/-- A step of a schedule. -/
inductive Session.Step where
  /-- Submits a stage. -/
  | submit (stage : Stage)
  /-- Starts all that is submitted and waits for it. -/
  | finish
  deriving DecidableEq, Repr

namespace Pipeline

/-- A call of a pipeline, with what it is told. -/
inductive Action where
  /-- Submits the load stage. -/
  | write (queue : QueueHandle) (m : BufferManager)
  /-- Submits the compute stage. -/
  | execute (queue : QueueHandle) (kernel : KernelHandle)
  /-- Submits the store stage. -/
  | read (queue : QueueHandle) (m : BufferManager)
  /-- Starts all that is submitted and waits for it. -/
  | finish (queue : QueueHandle)

/-- The step of a schedule that a call is. -/
def Action.step : Action → Session.Step
  | .write _ _ => .submit .load
  | .execute _ _ => .submit .compute
  | .read _ _ => .submit .store
  | .finish _ => .finish

/-- The queue of a call. -/
def Action.queue : Action → QueueHandle
  | .write queue _ => queue
  | .execute queue _ => queue
  | .read queue _ => queue
  | .finish queue => queue

/-- What a call does. -/
def Action.perform {σ : Type} [ComputeApi σ] : Action → Attempt (Pipeline × σ) Unit
  | .write queue m => discard (Pipeline.write queue m)
  | .execute queue kernel => discard (Pipeline.execute queue kernel)
  | .read queue m => discard (Pipeline.read queue m)
  | .finish queue => Pipeline.finish queue

end Pipeline

namespace Session

variable {σ α : Type} {P : Session σ → Prop}

/-! ### Attempts on a part of a session -/

/-- What is kept whatever becomes of the backend is kept by an attempt on it. -/
theorem preserves_onBackend {x : Attempt σ α}
    (keeps : ∀ s : Session σ, Preserves (fun b => P { s with backend := b }) x) :
    Preserves P (onBackend x) := by
  intro s h
  rw [onBackend, stateOf_within]
  exact keeps s s.backend h

theorem preserves_onBuffers {x : Attempt (BufferManager × σ) α}
    (keeps : ∀ s : Session σ, Preserves (fun mb => P { s with buffers := mb.1, backend := mb.2 }) x) :
    Preserves P (onBuffers x) := by
  intro s h
  rw [onBuffers, stateOf_within]
  exact keeps s (s.buffers, s.backend) h

/-- What succeeds on the pipeline succeeds on it by itself and leaves the rest alone. -/
theorem onPipeline_ok {x : Attempt (Pipeline × σ) α} {a : α} {s t : Session σ}
    (ran : onPipeline x s = .ok a t) : ∃ p b, x (s.pipeline, s.backend) = .ok a (p, b) ∧
      t = { s with pipeline := p, backend := b } := by
  obtain ⟨⟨p, b⟩, worked, same⟩ := within_ok ran
  exact ⟨p, b, worked, same⟩

theorem preserves_bufferHandle (index : Nat) : Preserves P (bufferHandle (σ := σ) index) := by
  refine Preserves.get.bind fun s => ?_
  cases s.buffers.handle index with
  | error e => exact .throw e
  | ok handle => exact .pure handle

/-! ### Operations -/

/-- An operation of a session, whatever it answers. -/
inductive Operation where
  /-- Allocates a buffer. -/
  | createBuffer (request : BufferRequest)
  /-- Binds an argument to a value. -/
  | setScalar (index : Nat) (bytes : Octets)
  /-- Binds an argument to its buffer. -/
  | setBuffer (index : Nat)
  /-- Attaches a stream. -/
  | attachStream (index : Nat) (direction : StreamDirection)
  /-- Submits the load stage. -/
  | write
  /-- Submits the compute stage. -/
  | execute
  /-- Submits the store stage. -/
  | read
  /-- Starts all that is submitted and waits for it. -/
  | finish
  /-- Measures the latest cycle. -/
  | metrics
  /-- Runs a whole cycle and measures it. -/
  | invoke
  /-- Asks how long a stage took. -/
  | elapsed (stage : Stage)
  /-- Asks how fast a stage was. -/
  | throughput (stage : Stage)
  /-- Looks at host memory. -/
  | hostData (index : Nat)
  /-- Writes over host memory. -/
  | overwriteHost (index offset : Nat) (data : Bytes)

/-- The stages that an operation submits. -/
def Operation.stages : Operation → List Stage
  | .write => [.load]
  | .execute => [.compute]
  | .read => [.store]
  | .invoke => Stage.all
  | _ => []

/-- The operation of a step. -/
def Step.operation : Step → Operation
  | submit .load => .write
  | submit .compute => .execute
  | submit .store => .read
  | finish => .finish

variable [ComputeApi σ]

/-- What an operation does. -/
def Operation.perform : Operation → Attempt (Session σ) Unit
  | .createBuffer request => discard (Session.createBuffer request)
  | .setScalar index bytes => Session.setScalar index bytes
  | .setBuffer index => Session.setBuffer index
  | .attachStream index direction => discard (Session.attachStream index direction)
  | .write => discard Session.write
  | .execute => discard Session.execute
  | .read => discard Session.read
  | .finish => Session.finish
  | .metrics => discard Session.metrics
  | .invoke => discard Session.invoke
  | .elapsed stage => discard (Session.elapsed stage)
  | .throughput stage => discard (Session.throughput stage)
  | .hostData index => discard (Session.hostData index)
  | .overwriteHost index offset data => discard (Session.overwriteHost index offset data)

/-- The session after some operations, whether they succeed or not. -/
def performAll (operations : List Operation) (s : Session σ) : Session σ :=
  operations.foldl (fun s operation => stateOf (operation.perform s)) s

/-- What every operation keeps holds after any of them. -/
theorem holds_performAll (keeps : ∀ operation : Operation, Preserves P operation.perform)
    {s : Session σ} (h : P s) (operations : List Operation) : P (s.performAll operations) := by
  induction operations generalizing s with
  | nil => exact h
  | cons operation rest ih => exact ih (keeps operation s h)

/-! ### Steps are calls of the pipeline -/

/-- The call of its pipeline that a session makes for a step. -/
def action {τ : Type} (s : Session τ) : Step → Pipeline.Action
  | .submit .load => .write s.device.queue s.buffers
  | .submit .compute => .execute s.device.queue s.device.kernel
  | .submit .store => .read s.device.queue s.buffers
  | .finish => .finish s.device.queue

theorem step_action {τ : Type} (s : Session τ) (step : Step) : (s.action step).step = step := by
  cases step with
  | finish => rfl
  | submit stage => cases stage <;> rfl

theorem queue_action {τ : Type} (s : Session τ) (step : Step) :
    (s.action step).queue = s.device.queue := by
  cases step with
  | finish => rfl
  | submit stage => cases stage <;> rfl

theorem discard_of_onPipeline {τ : Type} {x : Attempt (Pipeline × τ) α}
    {y : Attempt (Session τ) α} {s : Session τ} (h : y s = onPipeline x s) :
    discard y s = onPipeline (discard x) s := by
  rw [discard_apply, h, onPipeline, onPipeline, within_apply, within_apply, discard_apply]
  cases x (s.pipeline, s.backend) <;> rfl

theorem perform_step (s : Session σ) (step : Step) :
    step.operation.perform s = onPipeline (s.action step).perform s := by
  cases step with
  | finish => rfl
  | submit stage =>
    cases stage with
    | load => exact discard_of_onPipeline (y := Session.write) rfl
    | compute => exact discard_of_onPipeline (y := Session.execute) rfl
    | store => exact discard_of_onPipeline (y := Session.read) rfl

/-- What the calls of a pipeline keep is kept by the steps of its session. -/
theorem preserves_of_action {step : Step}
    (keeps : ∀ s : Session σ,
      Preserves (fun pb => P { s with pipeline := pb.1, backend := pb.2 }) (s.action step).perform) :
    Preserves P step.operation.perform := by
  intro s h
  rw [perform_step, onPipeline, stateOf_within]
  exact keeps s (s.pipeline, s.backend) h

/-! ### Schedules -/

/-- Performs the steps of a schedule in order, up to the first that fails. -/
def run (steps : List Step) : Attempt (Session σ) Unit :=
  forM steps fun step => step.operation.perform

theorem run_cons (step : Step) (rest : List Step) (s : Session σ) :
    run (step :: rest) s = match step.operation.perform s with
      | .ok _ t => run rest t
      | .error e t => .error e t := by
  rw [run, List.forM_cons, bind_apply]
  cases step.operation.perform s <;> rfl

theorem run_cons_of_ok {s t : Session σ} {step : Step} (first : step.operation.perform s = .ok () t)
    (rest : List Step) : run (step :: rest) s = run rest t := by
  rw [run_cons, first]

theorem stateOf_run_singleton (step : Step) (s : Session σ) :
    stateOf (run [step] s) = stateOf (step.operation.perform s) := by
  rw [run_cons]
  cases step.operation.perform s <;> rfl

theorem run_append (first rest : List Step) (s : Session σ) :
    run (first ++ rest) s = match run first s with
      | .ok _ t => run rest t
      | .error e t => .error e t := by
  rw [run, List.forM_append, bind_apply, ← run]
  cases run first s <;> rfl

theorem run_append_of_ok {s t : Session σ} {first : List Step} (ran : run first s = .ok () t)
    (rest : List Step) : run (first ++ rest) s = run rest t := by
  rw [run_append, ran]

/-- Steps that all succeed lead where their operations do. -/
theorem performAll_of_run {s t : Session σ} {steps : List Step} (ran : run steps s = .ok () t) :
    s.performAll (steps.map Step.operation) = t := by
  induction steps generalizing s with
  | nil =>
    cases ran
    rfl
  | cons step rest ih =>
    rw [run_cons] at ran
    rw [List.map_cons, performAll, List.foldl_cons, ← performAll]
    cases first : step.operation.perform s with
    | error e u =>
      rw [first] at ran
      contradiction
    | ok _ u =>
      rw [first] at ran
      exact ih ran

/-- The steps of a whole cycle. -/
def wholeCycle : List Step := Stage.all.map .submit ++ [.finish]

/-- A whole cycle is measured once its steps have succeeded. -/
theorem invoke_apply (s : Session σ) :
    invoke s = match run wholeCycle s with
      | .ok _ t => metrics t
      | .error e t => .error e t := by
  have write : (Step.submit .load).operation.perform (σ := σ) = discard Session.write := rfl
  have execute : (Step.submit .compute).operation.perform (σ := σ) = discard Session.execute := rfl
  have read : (Step.submit .store).operation.perform (σ := σ) = discard Session.read := rfl
  have finish : Step.finish.operation.perform (σ := σ) = Session.finish := rfl
  rw [invoke, wholeCycle, Stage.all, List.map, List.map, List.map, List.map, List.cons_append,
    List.cons_append, List.cons_append, List.nil_append, bind_apply, run_cons, write, discard_apply]
  cases Session.write s with
  | error e t => rfl
  | ok _ t =>
    dsimp only
    rw [bind_apply, run_cons, execute, discard_apply]
    cases Session.execute t with
    | error e u => rfl
    | ok _ u =>
      dsimp only
      rw [bind_apply, run_cons, read, discard_apply]
      cases Session.read u with
      | error e v => rfl
      | ok _ v =>
        dsimp only
        rw [bind_apply, run_cons, finish]
        cases Session.finish v <;> rfl

/-! ### What operations keep -/

section
variable (plain : ∀ r : Request, r.isPlain → ∀ s : Session σ, P s →
  P { s with backend := r.after s.backend })
include plain

theorem preserves_plain (method : Method) {r : Request} (h : r.isPlain) :
    Preserves P (onBackend (askAs method r)) :=
  preserves_onBackend fun s => preserves_askAs method fun b => plain r h { s with backend := b }

theorem preserves_query {x : Attempt σ α}
    (keeps : ∀ s : Session σ,
      (∀ event instant, Preserves (fun b => P { s with backend := b }) (timeOf event instant)) →
      Preserves (fun b => P { s with backend := b }) x) : Preserves P (onBackend x) :=
  preserves_onBackend fun s => keeps s fun _ _ =>
    preserves_ask fun b => plain _ rfl { s with backend := b }

theorem preserves_cycleMetrics : Preserves P (Session.metrics (σ := σ)) :=
  Preserves.get.bind fun s => preserves_query plain fun _ keeps => preserves_metrics keeps s.pipeline

/-- Whatever plain requests, a new buffer and a finish keep is kept by an operation that submits no
stage, whether it succeeds or not. -/
theorem preserves_unstaged (operation : Operation) (unstaged : operation.stages = [])
    (create : ∀ request, operation = .createBuffer request → Preserves P (createBuffer request))
    (finish : Preserves P (Session.finish (σ := σ))) : Preserves P operation.perform := by
  have ask : ∀ r : Request, r.isPlain → Preserves P (onBackend (ask r)) := fun r =>
    preserves_plain plain r.method
  cases operation with
  | createBuffer request => exact (create request rfl).discard
  | setScalar index bytes =>
    refine Preserves.get.bind fun s => ?_
    exact ask _ rfl
  | setBuffer index =>
    refine (preserves_bufferHandle index).bind fun handle => Preserves.get.bind fun s => ?_
    exact ask _ rfl
  | attachStream index direction =>
    refine (Preserves.get.bind fun s => ?_).discard
    exact ask _ rfl
  | write => contradiction
  | execute => contradiction
  | read => contradiction
  | invoke => contradiction
  | finish => exact finish
  | metrics => exact (preserves_cycleMetrics plain).discard
  | elapsed stage =>
    refine (Preserves.get.bind fun s => preserves_query plain fun _ keeps => ?_).discard
    exact preserves_elapsedOf keeps (s.pipeline.event stage)
  | throughput stage =>
    refine (Preserves.get.bind fun s => preserves_query plain fun _ keeps => ?_).discard
    exact (preserves_elapsedOf keeps (s.pipeline.event stage)).bind fun _ => .pure _
  | hostData index =>
    refine ((preserves_bufferHandle index).bind fun handle => ?_).discard
    exact ask _ rfl
  | overwriteHost index offset data =>
    refine ((preserves_bufferHandle index).bind fun handle => ?_).discard
    exact preserves_plain plain .hostMemory rfl

/-- Whatever plain requests, a new buffer and the four steps of a cycle keep is kept by an
operation, whether it succeeds or not. -/
theorem preserves_operation (operation : Operation)
    (create : ∀ request, operation = .createBuffer request → Preserves P (createBuffer request))
    (steps : ∀ step : Step, Preserves P step.operation.perform) :
    Preserves P operation.perform := by
  have write : Preserves P (Session.write (σ := σ)) := .of_discard (steps (.submit .load))
  have execute : Preserves P (Session.execute (σ := σ)) := .of_discard (steps (.submit .compute))
  have read : Preserves P (Session.read (σ := σ)) := .of_discard (steps (.submit .store))
  have finish : Preserves P (Session.finish (σ := σ)) := steps .finish
  cases operation with
  | write => exact write.discard
  | execute => exact execute.discard
  | read => exact read.discard
  | invoke =>
    exact (write.bind fun _ => execute.bind fun _ => read.bind fun _ => finish.bind fun _ =>
      preserves_cycleMetrics plain).discard
  | _ => exact preserves_unstaged plain _ rfl create finish

end

/-! ### What all requests keep -/

section
variable {τ : Type} {Q : τ × σ → Prop}

theorem preserves_onSecond_ask (r : Request) (request : ∀ a b, Q (a, b) → Q (a, r.after b)) :
    Preserves Q (onSecond (ask r) : Attempt (τ × σ) r.Answer) := by
  rintro ⟨a, b⟩ h
  rw [stateOf_onSecond, stateOf_ask]
  exact request a b h

theorem preserves_submitMigration {queue : QueueHandle} {buffers : List BufferHandle}
    {direction : Direction} {wait : List EventHandle}
    (request : ∀ a b, Q (a, b) →
      Q (a, Request.after (.enqueueMigrate queue buffers direction wait) b)) :
    Preserves Q (onSecond (Pipeline.submitMigration queue buffers direction wait)) := by
  rintro ⟨a, b⟩ h
  rw [stateOf_onSecond, Pipeline.submitMigration]
  split
  · exact h
  · refine ((preserves_ask (P := fun b => Q (a, b)) fun b => request a b).bind fun _ => ?_) b h
    exact .pure _

end

theorem preserves_require {τ : Type} {Q : Pipeline × τ → Prop} (stage : Stage) :
    Preserves Q (Pipeline.require stage) := by
  refine Preserves.get.bind fun ⟨p, _⟩ => ?_
  dsimp only
  split
  · exact .throw _
  · exact .pure _

section
variable {Q : Pipeline × σ → Prop}

theorem preserves_release (request : ∀ e p b, Q (p, b) → Q (p, Request.after (.releaseEvent e) b))
    (forget : ∀ p stage b, Q (p, b) → Q (p.withoutEvent stage, b)) (stage : Stage) :
    Preserves Q (Pipeline.release stage) := by
  refine Preserves.get.bind fun ⟨p, _⟩ => ?_
  dsimp only
  cases p.event stage with
  | none => exact .pure ()
  | some event =>
    exact (Preserves.modify fun s h => forget s.1 stage s.2 h).bind fun _ =>
      preserves_onSecond_ask _ (request event)

theorem preserves_releaseHeld
    (request : ∀ e p b, Q (p, b) → Q (p, Request.after (.releaseEvent e) b))
    (forget : ∀ p stage b, Q (p, b) → Q (p.withoutEvent stage, b)) :
    Preserves Q Pipeline.releaseHeld :=
  (preserves_release request forget .load).bind fun _ =>
    (preserves_release request forget .compute).bind fun _ => preserves_release request forget .store

/-- A call of a pipeline keeps what is kept by the requests that reach no queue but its own. -/
theorem preserves_action (own : ∀ p q b, Q (p, b) → Q (q, b)) (action : Pipeline.Action)
    (request : ∀ r p b, (∀ queue ∈ r.queue?, queue = action.queue) → Q (p, b) →
      Q (p, Request.after r b)) : Preserves Q action.perform := by
  have release := preserves_releaseHeld
    (fun e p b => request (.releaseEvent e) p b (by simp [Request.queue?]))
    fun p stage b => own p (p.withoutEvent stage) b
  cases action with
  | write queue m =>
    exact ((preserves_require .load).bind fun _ => release.bind fun _ =>
      (preserves_submitMigration fun p b =>
        request _ p b (by simp [Request.queue?, Pipeline.Action.queue])).bind fun _ =>
      (Preserves.modify fun s h => own s.1 _ s.2 h).bind fun _ => .pure _).discard
  | execute queue kernel =>
    exact ((preserves_require .compute).bind fun _ => Preserves.get.bind fun s =>
      (preserves_onSecond_ask _ fun p b =>
        request _ p b (by simp [Request.queue?, Pipeline.Action.queue])).bind fun _ =>
      (Preserves.modify fun s h => own s.1 _ s.2 h).bind fun _ => .pure _).discard
  | read queue m =>
    exact ((preserves_require .store).bind fun _ => Preserves.get.bind fun s =>
      (preserves_submitMigration fun p b =>
        request _ p b (by simp [Request.queue?, Pipeline.Action.queue])).bind fun _ =>
      (Preserves.modify fun s h => own s.1 _ s.2 h).bind fun _ => .pure _).discard
  | finish queue =>
    have ask : ∀ r : Request, r.queue? = some queue →
        Preserves Q (onSecond (ask r) : Attempt (Pipeline × σ) r.Answer) := fun r here =>
      preserves_onSecond_ask r fun p b => request r p b (by simp [here, Pipeline.Action.queue])
    exact (ask _ rfl).bind fun _ => (ask _ rfl).bind fun _ =>
      Preserves.modify fun s h => own s.1 _ s.2 h

end

/-- What is kept by requests that reach no queue, whatever the buffers are, is kept by a new
buffer. -/
theorem preserves_createBuffer
    (request : ∀ r (s : Session σ), r.queue? = none → P s →
      P { s with backend := Request.after r s.backend })
    (own : ∀ (s : Session σ) m, P s → P { s with buffers := m }) (order : BufferRequest) :
    Preserves P (createBuffer order) := by
  refine Preserves.get.bind fun s => preserves_onBuffers fun v => ?_
  have ask : ∀ r : Request, r.queue? = none → Preserves
      (fun mb : BufferManager × σ => P { v with buffers := mb.1, backend := mb.2 })
      (onSecond (ask r) : Attempt (BufferManager × σ) r.Answer) := fun r none =>
    preserves_onSecond_ask r fun m b => request r { v with buffers := m, backend := b } none
  refine Preserves.get.bind fun ⟨m, _⟩ => (ask _ rfl).bind fun handle =>
    (Preserves.modify fun mb h => own { v with buffers := mb.1, backend := mb.2 } _ h).bind
      fun _ => ?_
  cases m.buffers.get? order.index with
  | none => exact .pure handle
  | some replaced => exact (ask _ rfl).bind fun _ => .pure handle

/-- What is kept by every request that reaches no queue but that of the session, whatever the
buffers and the pipeline are, is kept by every operation. -/
theorem preserves_of_requests
    (request : ∀ r (s : Session σ), (∀ queue ∈ r.queue?, queue = s.device.queue) → P s →
      P { s with backend := Request.after r s.backend })
    (own : ∀ (s : Session σ) m p, P s → P { s with buffers := m, pipeline := p })
    (operation : Operation) : Preserves P operation.perform := by
  refine preserves_operation (fun r plain s => request r s ?_) operation (fun order _ => ?_)
    fun step => ?_
  · simp [Request.queue?_of_isPlain plain]
  · exact preserves_createBuffer (fun r s none => request r s (by simp [none]))
      (fun s m => own s m s.pipeline) order
  · refine preserves_of_action fun v => preserves_action ?_ _ fun r p b only => ?_
    · exact fun p q b => own { v with pipeline := p, backend := b } v.buffers q
    · rw [queue_action] at only
      exact request r { v with pipeline := p, backend := b } only

end Session

end FpgaHost
