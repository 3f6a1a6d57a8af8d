import FpgaHost.Proofs.Session.Attempts

/-!
# Operations as decisions

Nothing is known here of the backend: any request may fail with any status. An operation of a
pipeline first looks whether it is in order, then makes its requests one after the other, and stops
at the first that fails. This module states each operation as that decision, with the pipeline that
every outcome leaves, so that no later proof opens an operation again.

Main statements: `Pipeline.write_eq`, `Pipeline.execute_eq`, `Pipeline.read_eq` and
`Pipeline.finish_eq` for the pipeline, and `BufferManager.create_eq` for a new buffer.
-/

namespace FpgaHost

open Steps Attempt

namespace Pipeline

/-! ### Records of stages -/

theorem event_withoutEvent (p : Pipeline) (stage other : Stage) :
    (p.withoutEvent stage).event other = if other = stage then none else p.event other := by
  cases stage <;> cases other <;> rfl

theorem withoutEvent_of_none {p : Pipeline} {stage : Stage} (none : p.event stage = none) :
    p.withoutEvent stage = p := by
  cases stage <;>
    · simp only [event, record] at none
      simp only [withoutEvent, withRecord, record, ← none]

theorem event_submitted (p : Pipeline) (stage other : Stage) (r : StageRecord) :
    (p.submitted stage r).event other =
      if other = stage then r.event else if stage = .load then none else p.event other := by
  cases stage <;> cases other <;> rfl

/-- The pipeline that holds no event. -/
def emptied (p : Pipeline) : Pipeline :=
  ((p.withoutEvent .load).withoutEvent .compute).withoutEvent .store

theorem event_emptied (p : Pipeline) (stage : Stage) : p.emptied.event stage = none := by
  cases stage <;> rfl

/-! ### Operations -/

variable {σ α : Type}

theorem require_bind (stage : Stage) (f : Unit → Attempt (Pipeline × σ) α) (p : Pipeline) (s : σ) :
    (require stage >>= f) (p, s) =
      if stage.startsFrom.contains p.state then f () (p, s)
      else .error (.outOfOrder stage p.state) (p, s) := by
  rw [require, bind_assoc, get_bind]
  dsimp only
  cases stage.startsFrom.contains p.state <;> rfl

variable [ComputeApi σ]

theorem release_apply (stage : Stage) (p : Pipeline) (s : σ) :
    release stage (p, s) = match p.event stage with
      | none => .ok () (p, s)
      | some event => onSecond (ask (.releaseEvent event)) (p.withoutEvent stage, s) := by
  rw [release, get_bind]
  dsimp only
  cases p.event stage <;> rfl

theorem releaseEvents_eq (ps : Pipeline × σ) :
    releaseEvents ps =
      stateOf (release .store (stateOf (release .compute (stateOf (release .load ps))))) := by
  rw [releaseEvents, Stage.all, List.foldl, List.foldl, List.foldl, List.foldl, after_eq, after_eq,
    after_eq]

theorem submitMigration_eq (queue : QueueHandle) (buffers : List BufferHandle)
    (direction : Direction) (wait : List EventHandle) (s : σ) :
    submitMigration queue buffers direction wait s =
      if buffers.isEmpty then .ok none s
      else match ask (.enqueueMigrate queue buffers direction wait) s with
        | .ok event t => .ok (some event) t
        | .error e t => .error e t := by
  rw [submitMigration]
  split
  · rfl
  · rw [bind_apply]
    cases ask (.enqueueMigrate queue buffers direction wait) s <;> rfl

/-- A migration of no buffers is not asked for; any other comes to what the request comes to. -/
theorem ensures_submitMigration {queue : QueueHandle} {buffers : List BufferHandle}
    {direction : Direction} {wait : List EventHandle} {pre : σ → Prop}
    {post : Option EventHandle → σ → Prop} {fail : SessionError → σ → Prop}
    (asked : Ensures pre (ask (.enqueueMigrate queue buffers direction wait))
      (fun event => post (some event)) fail) (skipped : ∀ s, pre s → post none s) :
    Ensures pre (submitMigration queue buffers direction wait) post fail := by
  rw [submitMigration]
  split
  · exact .pure skipped
  · exact asked.bind fun _ => .pure fun _ h => h

/-- The load stage gives back what is held and submits a migration. -/
theorem write_eq (queue : QueueHandle) (m : BufferManager) (p : Pipeline) (s : σ) :
    write queue m (p, s) =
      if Stage.load.startsFrom.contains p.state then
        match releaseHeld (p, s) with
        | .error e qt => .error e qt
        | .ok _ (q, t) =>
          match submitMigration queue m.loadHandles .toDevice [] t with
          | .ok event u => .ok event (q.submitted .load { event, bytes := m.loadBytes }, u)
          | .error e u => .error e (q, u)
      else .error (.outOfOrder .load p.state) (p, s) := by
  rw [write, require_bind]
  split
  · rw [bind_apply]
    cases releaseHeld (p, s) with
    | error e qt => rfl
    | ok _ qt =>
      obtain ⟨q, t⟩ := qt
      dsimp only
      rw [bind_apply, onSecond_apply]
      cases submitMigration queue m.loadHandles .toDevice [] t <;> rfl
  · rfl

/-- The compute stage submits the kernel after the load stage. -/
theorem execute_eq (queue : QueueHandle) (kernel : KernelHandle) (p : Pipeline) (s : σ) :
    execute queue kernel (p, s) =
      if Stage.compute.startsFrom.contains p.state then
        match ask (.enqueueTask queue kernel p.load.event.toList) s with
        | .ok event t => .ok event (p.submitted .compute { event := some event }, t)
        | .error e t => .error e (p, t)
      else .error (.outOfOrder .compute p.state) (p, s) := by
  rw [execute, require_bind]
  split
  · rw [get_bind]
    dsimp only
    rw [bind_apply, onSecond_apply]
    cases ask (.enqueueTask queue kernel p.load.event.toList) s <;> rfl
  · rfl

/-- The store stage submits a migration after the compute stage. -/
theorem read_eq (queue : QueueHandle) (m : BufferManager) (p : Pipeline) (s : σ) :
    read queue m (p, s) =
      if Stage.store.startsFrom.contains p.state then
        match submitMigration queue m.storeHandles .toHost p.compute.event.toList s with
        | .ok event t => .ok event (p.submitted .store { event, bytes := m.storeBytes }, t)
        | .error e t => .error e (p, t)
      else .error (.outOfOrder .store p.state) (p, s) := by
  rw [read, require_bind]
  split
  · rw [get_bind]
    dsimp only
    rw [bind_apply, onSecond_apply]
    cases submitMigration queue m.storeHandles .toHost p.compute.event.toList s <;> rfl
  · rfl

/-- A finish starts the queue and waits for it. -/
theorem finish_eq (queue : QueueHandle) (p : Pipeline) (s : σ) :
    finish queue (p, s) = match ask (.flush queue) s with
      | .error e t => .error e (p, t)
      | .ok _ t =>
        match ask (.finish queue) t with
        | .error e u => .error e (p, u)
        | .ok _ u => .ok () ({ p with state := p.state.finished }, u) := by
  rw [finish, bind_apply, onSecond_apply]
  cases ask (.flush queue) s with
  | error e t => rfl
  | ok _ t =>
    dsimp only
    rw [bind_apply, onSecond_apply]
    cases ask (.finish queue) t <;> rfl

/-! ### What a stage that succeeds leaves -/

variable {queue : QueueHandle} {m : BufferManager} {p q : Pipeline} {s t : σ}

/-- A migration is skipped exactly if there is nothing to move. -/
theorem submitMigration_ok {buffers : List BufferHandle} {direction : Direction}
    {wait : List EventHandle} {event : Option EventHandle}
    (submitted : submitMigration queue buffers direction wait s = .ok event t) :
    event = none ↔ buffers = [] := by
  rw [submitMigration_eq] at submitted
  cases buffers with
  | nil =>
    cases submitted
    simp
  | cons first rest =>
    cases asked : ask (.enqueueMigrate queue (first :: rest) direction wait) s <;>
      simp [asked] at submitted
    simp [← submitted.1]

/-- The load stage begins anew. -/
theorem write_ok {event : Option EventHandle} (wrote : write queue m (p, s) = .ok event (q, t)) :
    q = submitted {} .load { event, bytes := m.loadBytes } ∧ (event = none ↔ m.loadHandles = []) := by
  rw [write_eq] at wrote
  split at wrote
  · split at wrote
    · contradiction
    · split at wrote
      next accepted =>
        cases wrote
        exact ⟨rfl, submitMigration_ok accepted⟩
      · contradiction
  · contradiction

theorem execute_ok {kernel : KernelHandle} {event : EventHandle}
    (executed : execute queue kernel (p, s) = .ok event (q, t)) :
    q = p.submitted .compute { event := some event } := by
  rw [execute_eq] at executed
  split at executed
  · split at executed
    · cases executed
      rfl
    · contradiction
  · contradiction

theorem read_ok {event : Option EventHandle} (stored : read queue m (p, s) = .ok event (q, t)) :
    q = p.submitted .store { event, bytes := m.storeBytes } ∧
      (event = none ↔ m.storeHandles = []) := by
  rw [read_eq] at stored
  split at stored
  · split at stored
    next accepted =>
      cases stored
      exact ⟨rfl, submitMigration_ok accepted⟩
    · contradiction
  · contradiction

theorem finish_ok (finished : finish queue (p, s) = .ok () (q, t)) :
    q = { p with state := p.state.finished } := by
  rw [finish_eq] at finished
  split at finished
  · contradiction
  · split at finished
    · contradiction
    · cases finished
      rfl

end Pipeline

/-! ### New buffers -/

/-- A new buffer takes its place before the one it replaces is given back. -/
theorem BufferManager.create_eq {σ : Type} [ComputeApi σ] (context : ContextHandle)
    (args : ArgumentTable) (request : BufferRequest) (m : BufferManager) (s : σ) :
    create context args request (m, s) =
      let placement := BufferPlacement.ofArgument (args.get? request.index)
      match ask (.createBuffer context (m.allocationFlags request placement) request.size
          request.host (placement.directive? request.host.isSome)) s with
      | .error e t => .error e (m, t)
      | .ok handle t =>
        let m' := m.install request.index
          { handle, size := request.size, access := request.access, placement }
        match m.buffers.get? request.index with
        | none => .ok handle (m', t)
        | some replaced =>
          match ask (.releaseBuffer replaced.handle) t with
          | .error e u => .error e (m', u)
          | .ok _ u => .ok handle (m', u) := by
  rw [create, get_bind]
  dsimp only
  rw [bind_apply, onSecond_apply]
  cases ask (.createBuffer context _ request.size request.host _) s with
  | error e t => rfl
  | ok handle t =>
    dsimp only
    rw [modify_bind]
    cases m.buffers.get? request.index with
    | none => rfl
    | some replaced =>
      dsimp only
      rw [bind_apply, onSecond_apply]
      cases ask (.releaseBuffer replaced.handle) t <;> rfl

end FpgaHost
