import FpgaHost.Proofs.Device.Ledger
import FpgaHost.Proofs.Session.Decisions
import FpgaHost.Proofs.Session.Operations
import FpgaHost.Proofs.Table

/-!
# What a session holds

A session holds the context of its device, the buffer of every argument that has one and the events
of the stages of its pipeline. Any request may fail with any status; whatever fails, an accounting
goes along with what is held: while a device is searched for and bound, by every operation of a
session, and when it is closed, which leaves nothing held.

Main statements: `Accounting.holds_start`, `Accounting.holds_perform` and
`Accounting.nothing_of_close`.
-/

namespace FpgaHost

open Steps Attempt

theorem Request.lends_of_isPlain {r : Request} (plain : r.isPlain) (outcome) :
    r.lends outcome = [] := by
  cases r <;> first | rfl | contradiction

theorem Request.returns_of_isPlain {r : Request} (plain : r.isPlain) : r.returns = [] := by
  cases r <;> first | rfl | contradiction

/-! ### What is held -/

namespace Pipeline

variable {p : Pipeline} {stage : Stage}

/-- What a pipeline holds. -/
def loans (p : Pipeline) : List Loan :=
  Stage.all.flatMap fun stage => (p.event stage).toList.map .event

theorem loans_eq (p : Pipeline) : p.loans = (p.event .load).toList.map .event ++
    ((p.event .compute).toList.map .event ++ (p.event .store).toList.map .event) := by
  simp [loans, Stage.all]

theorem loans_of_none (none : ∀ stage, p.event stage = none) : p.loans = [] := by
  simp [loans, none]

/-- A stage holds its event beside what the other stages hold. -/
theorem loans_perm_withoutEvent (p : Pipeline) (stage : Stage) :
    p.loans.Perm ((p.event stage).toList.map .event ++ (p.withoutEvent stage).loans) := by
  rw [List.perm_iff_count]
  intro loan
  rw [loans_eq, loans_eq]
  cases stage <;> simp [event_withoutEvent] <;> omega

/-- A stage without an event that is submitted adds its event to what is held. -/
theorem loans_submitted (record : StageRecord) (free : p.event stage = none)
    (first : stage = .load → p.loans = []) :
    (p.submitted stage record).loans.Perm (record.event.toList.map .event ++ p.loans) := by
  cases stage with
  | load =>
    rw [first rfl, loans_eq]
    simp [event_submitted]
  | compute =>
    rw [List.perm_iff_count, loans_eq, loans_eq, free]
    intro loan
    simp [event_submitted]
    omega
  | store =>
    rw [List.perm_iff_count, loans_eq, loans_eq, free]
    intro loan
    simp [event_submitted]
    omega

/-- The stages that are still to come in a cycle hold no event, so none is lost when they are
submitted. -/
structure Vacant (p : Pipeline) : Prop where
  /-- The compute stage. -/
  compute : p.state = .loaded → p.event .compute = none
  /-- The store stage. -/
  store : p.state = .loaded ∨ p.state = .computed → p.event .store = none

theorem vacant_of_ready (ready : Stage.load.startsFrom.contains p.state = true) : p.Vacant where
  compute loaded := by
    rw [loaded] at ready
    contradiction
  store within := by rcases within with state | state <;> rw [state] at ready <;> contradiction

theorem Vacant.withoutEvent (vacant : p.Vacant) (stage : Stage) :
    (p.withoutEvent stage).Vacant where
  compute loaded := by
    rw [event_withoutEvent, vacant.compute (by cases stage <;> exact loaded), ite_self]
  store within := by
    rw [event_withoutEvent, vacant.store (by cases stage <;> exact within), ite_self]

/-- A stage other than the first that is ready holds no event. -/
theorem Vacant.free (vacant : p.Vacant) (ready : stage.startsFrom.contains p.state = true)
    (later : stage ≠ .load) : p.event stage = none := by
  cases stage with
  | load => contradiction
  | compute => exact vacant.compute (by simpa [Stage.startsFrom] using ready)
  | store => exact vacant.store (.inr (by simpa [Stage.startsFrom] using ready))

theorem Vacant.submitted (vacant : p.Vacant) (record : StageRecord)
    (ready : stage.startsFrom.contains p.state = true) : (p.submitted stage record).Vacant := by
  cases stage with
  | load => exact ⟨fun _ => rfl, fun _ => rfl⟩
  | compute =>
    have loaded : p.state = .loaded := by simpa [Stage.startsFrom] using ready
    exact ⟨nofun, fun _ => vacant.store (.inl loaded)⟩
  | store => exact ⟨nofun, by rintro (state | state) <;> cases state⟩

theorem Vacant.finished (vacant : p.Vacant) : Vacant { p with state := p.state.finished } := by
  cases state : p.state with
  | stored => exact ⟨nofun, by rintro (state | state) <;> cases state⟩
  | idle => exact ⟨nofun, by rintro (state | state) <;> cases state⟩
  | loaded => exact ⟨fun _ => vacant.compute state, fun _ => vacant.store (.inl state)⟩
  | computed => exact ⟨nofun, fun _ => vacant.store (.inr state)⟩

end Pipeline

namespace BufferManager

/-- What a manager holds. -/
def loans (m : BufferManager) : List Loan := m.buffers.values.map fun b => .buffer b.handle

theorem loans_install_of_none {m : BufferManager} {index : Nat} (b : ManagedBuffer)
    (none : m.buffers.get? index = none) :
    (m.install index b).loans.Perm (.buffer b.handle :: m.loans) :=
  (Table.values_insert_of_none b none).map _

theorem loans_install_of_some {m : BufferManager} {index : Nat} {old : ManagedBuffer}
    (b : ManagedBuffer) (had : m.buffers.get? index = some old) :
    (.buffer old.handle :: (m.install index b).loans).Perm (.buffer b.handle :: m.loans) :=
  (Table.values_insert_of_some b had).map fun b : ManagedBuffer => Loan.buffer b.handle

end BufferManager

namespace Session

/-- What a session holds. -/
def loans {τ : Type} (s : Session τ) : List Loan :=
  .context s.device.context :: (s.buffers.loans ++ s.pipeline.loans)

/-- The pipeline is in front. -/
theorem loans_perm_pipeline {τ : Type} (s : Session τ) :
    s.loans.Perm (s.pipeline.loans ++ .context s.device.context :: s.buffers.loans) :=
  (List.perm_append_comm.cons _).trans List.perm_middle.symm

/-- The buffers are in front. -/
theorem loans_perm_buffers {τ : Type} (s : Session τ) :
    s.loans.Perm (s.buffers.loans ++ .context s.device.context :: s.pipeline.loans) :=
  List.perm_middle.symm

/-- The events that a session holds are those of its stages. -/
theorem stage_of_event_loans {τ : Type} {s : Session τ} {event : EventHandle}
    (mem : Loan.event event ∈ s.loans) : ∃ stage, s.pipeline.event stage = some event := by
  simp only [loans, BufferManager.loans, Pipeline.loans, List.mem_cons, List.mem_append,
    List.mem_map, List.mem_flatMap, reduceCtorEq, and_false, exists_false, false_or,
    Loan.event.injEq, exists_eq_right, Option.mem_toList] at mem
  obtain ⟨stage, -, held⟩ := mem
  exact ⟨stage, held⟩

end Session

section
variable {σ : Type} (H : List Loan → σ → Prop)

/-- A property holds of what a pipeline and others hold, and the stages to come hold nothing. -/
def Pipeline.Holds (rest : List Loan) (ps : Pipeline × σ) : Prop :=
  ps.1.Vacant ∧ H (ps.1.loans ++ rest) ps.2

/-- A property holds of what a session holds, and the stages to come hold nothing. -/
def Session.Holds (s : Session σ) : Prop := s.pipeline.Vacant ∧ H s.loans s.backend

end

/-! ### Attempts -/

namespace Accounting

variable {σ α : Type} [ComputeApi σ] {H : List Loan → σ → Prop} {held rest : List Loan}
  (accounting : Accounting H)
include accounting

theorem ensures_tryCall (r : Request) {fail : SessionError → σ → Prop} :
    Ensures (H (r.returns ++ held)) (tryCall r) (fun outcome => H (r.lends outcome ++ held))
      fail := by
  intro s h
  rw [tryCall_apply]
  cases outcome : ComputeApi.call r s with
  | ok answer t => exact accounting.answered outcome h
  | error status t =>
    dsimp only
    rw [Request.lends_error]
    exact accounting.refused outcome h

theorem ensures_ask (r : Request) :
    Ensures (H (r.returns ++ held)) (ask r) (fun answer => H (r.lends (.ok answer) ++ held))
      (fun _ => H held) := by
  refine (accounting.ensures_tryCall r).bind fun outcome => ?_
  cases outcome with
  | ok answer => exact .pure fun _ h => h
  | error status =>
    refine .throw fun _ h => ?_
    rwa [Request.lends_error] at h

/-! ### Binding a device -/

section
open BoundDevice

/-- The device that was found is held. -/
theorem ensures_takeDevice (name : String) (devices : List DeviceId) :
    Ensures (H held) (takeDevice name devices)
      (fun found => H ((found.map fun f => Loan.context f.2).toList ++ held)) (fun _ => H held) := by
  induction devices with
  | nil => exact .pure fun _ h => h
  | cons device rest ih =>
    refine (accounting.ensures_ask (.deviceName device)).bind fun found => ?_
    split
    · exact ih
    · refine (accounting.ensures_tryCall (.createContext device)).bind fun outcome => ?_
      cases outcome with
      | ok context => exact .pure fun _ h => h
      | error status =>
        dsimp only
        split
        · exact ih
        · exact .throw fun _ h => h

theorem ensures_takeOnPlatform (identity : DeviceIdentity) (platform : PlatformId) :
    Ensures (H held) (takeOnPlatform identity platform)
      (fun found => H ((found.map fun f => Loan.context f.2).toList ++ held)) (fun _ => H held) := by
  refine (accounting.ensures_ask (.platformName platform)).bind fun vendor => ?_
  split
  · exact .pure fun _ h => h
  · refine (accounting.ensures_tryCall (.acceleratorDevices platform)).bind fun outcome => ?_
    cases outcome with
    | ok devices => exact accounting.ensures_takeDevice identity.device devices
    | error status =>
      dsimp only
      split
      · exact .pure fun _ h => h
      · exact .throw fun _ h => h

theorem ensures_take (identity : DeviceIdentity) :
    Ensures (H held) (take identity) (fun taken => H (.context taken.2.2 :: held))
      (fun _ => H held) := by
  refine (accounting.ensures_ask .platforms).bind fun platforms => ?_
  induction platforms with
  | nil => exact .throw fun _ h => h
  | cons platform rest ih =>
    refine (accounting.ensures_takeOnPlatform identity platform).bind fun found => ?_
    cases found with
    | none => exact ih
    | some device => exact .pure fun _ h => h

/-- The queue, the program and the kernel are nothing that is to be given back. -/
theorem ensures_instantiate (properties : QueueProperties) (context : ContextHandle)
    (device : DeviceId) (deviceName : String) (image : Bytes) (kernelName : String) :
    Ensures (H held) (instantiate properties context device deviceName image kernelName)
      (fun _ => H held) (fun _ => H held) := by
  have accepted : ∀ build, Ensures (H held) (requireBuilt deviceName build) (fun _ => H held)
      (fun _ => H held) := by
    intro build
    rw [requireBuilt]
    cases build.deviceStatus.find? (!·.isSuccess) with
    | none => exact .pure fun _ h => h
    | some status => exact .throw fun _ h => h
  exact (accounting.ensures_ask (.createQueue context device properties)).bind fun queue =>
    (accounting.ensures_ask (.buildProgram context [device] image)).bind fun build =>
    (accepted build).bind fun _ =>
    (accounting.ensures_ask (.createKernel build.program kernelName)).bind fun kernel =>
    .pure fun _ h => h

theorem ensures_giveBack (context : ContextHandle) {fail : SessionError → σ → Prop} :
    Ensures (H (.context context :: held)) (giveBack context) (fun _ => H held) fail :=
  .discard (accounting.ensures_tryCall (.releaseContext context))

/-- A device that is bound is held; one whose binding fails is given back. -/
theorem ensures_resolve (properties : QueueProperties) (emulation : Option Emulation)
    (identity : DeviceIdentity) (image : Bytes) (kernelName : String) :
    Ensures (H held) (resolve properties emulation identity image kernelName)
      (fun d => H (.context d.context :: held)) (fun _ => H held) := by
  refine (accounting.ensures_take identity).bind fun ⟨platform, device, context⟩ => ?_
  have made : Ensures (H (.context context :: held))
      (instantiate properties context device identity.device image kernelName)
      (fun _ => H (.context context :: held)) (fun _ => H (.context context :: held)) :=
    accounting.ensures_instantiate properties context device identity.device image kernelName
  have returned : ∀ e : SessionError, Ensures (H (.context context :: held))
      (do giveBack context; throw e) (fun _ : QueueHandle × ProgramHandle × KernelHandle =>
        H (.context context :: held)) (fun _ => H held) :=
    fun e => (accounting.ensures_giveBack context).bind fun _ => .throw fun _ h => h
  exact (made.tryCatch returned).bind fun _ => .pure fun _ h => h

end

/-! ### The pipeline -/

section
open Pipeline

variable {p : Pipeline} {stage : Stage}

/-- An event that is given back is not held any more, whether that succeeds or not. -/
theorem ensures_release_event (p : Pipeline) (stage : Stage) :
    Ensures (fun ps => ps.1 = p ∧ Pipeline.Holds H rest ps) (release stage)
      (fun _ ps => ps.1 = p.withoutEvent stage ∧ Pipeline.Holds H rest ps)
      (fun _ ps => ps.1 = p.withoutEvent stage ∧ Pipeline.Holds H rest ps) := by
  rintro ⟨p, s⟩ ⟨rfl, vacant, h⟩
  have h := accounting.perm h ((loans_perm_withoutEvent p stage).append_right rest)
  have vacant := vacant.withoutEvent stage
  rw [release_apply]
  cases mine : p.event stage with
  | none =>
    rw [mine] at h
    rw [withoutEvent_of_none mine] at h vacant ⊢
    exact ⟨rfl, vacant, h⟩
  | some event =>
    rw [mine] at h
    have asked := accounting.ensures_ask (.releaseEvent event) s h
    dsimp only
    rw [onSecond_apply]
    cases outcome : ask (.releaseEvent event) s <;> rw [outcome] at asked <;>
      exact ⟨rfl, vacant, asked⟩

theorem ensures_releaseHeld_events (p : Pipeline) :
    Ensures (fun ps => ps.1 = p ∧ Pipeline.Holds H rest ps) releaseHeld
      (fun _ ps => ps.1 = p.emptied ∧ Pipeline.Holds H rest ps)
      (fun _ => Pipeline.Holds H rest) := by
  have release : ∀ q stage,
      Ensures (fun ps => ps.1 = q ∧ Pipeline.Holds H rest ps) (release stage)
        (fun _ ps => ps.1 = q.withoutEvent stage ∧ Pipeline.Holds H rest ps)
        (fun _ => Pipeline.Holds H rest) := fun q stage =>
    (accounting.ensures_release_event q stage).imp_fail fun _ _ holds => holds.2
  exact (release p .load).bind fun _ => (release _ .compute).bind fun _ => release _ .store

/-- In the end nothing is held, whatever fails. -/
theorem holds_releaseEvents {s : σ} (holds : Pipeline.Holds H rest (p, s)) :
    H rest (releaseEvents (p, s)).2 := by
  have load := (accounting.ensures_release_event p .load).stateOf ⟨rfl, holds⟩
  have compute := (accounting.ensures_release_event (p.withoutEvent .load) .compute).stateOf load
  have store := (accounting.ensures_release_event _ .store).stateOf compute
  obtain ⟨emptied, -, h⟩ := store
  have nothing : (((p.withoutEvent .load).withoutEvent .compute).withoutEvent .store).loans = [] :=
    loans_of_none p.event_emptied
  rw [emptied, nothing] at h
  rw [releaseEvents_eq]
  exact h

theorem ensures_submitMigration (queue : QueueHandle) (buffers : List BufferHandle)
    (direction : Direction) (wait : List EventHandle) :
    Ensures (H held) (submitMigration queue buffers direction wait)
      (fun event => H (event.toList.map .event ++ held)) (fun _ => H held) :=
  Pipeline.ensures_submitMigration
    (accounting.ensures_ask (.enqueueMigrate queue buffers direction wait)) fun _ h => h

/-- A stage that is submitted holds its event. -/
theorem holds_submitted {s t : σ} (holds : Pipeline.Holds H rest (p, s)) (record : StageRecord)
    (ready : stage.startsFrom.contains p.state = true)
    (first : stage = .load → ∀ other, p.event other = none)
    (h : H (record.event.toList.map .event ++ (p.loans ++ rest)) t) :
    Pipeline.Holds H rest (p.submitted stage record, t) := by
  have free : p.event stage = none := by
    by_cases load : stage = .load
    · exact first load stage
    · exact holds.1.free ready load
  have loans := loans_submitted record free fun load => loans_of_none (first load)
  refine ⟨holds.1.submitted record ready, accounting.perm h ?_⟩
  rw [← List.append_assoc]
  exact (loans.append_right rest).symm

theorem holds_write (queue : QueueHandle) (m : BufferManager) :
    Preserves (Pipeline.Holds H rest) (write queue m) := by
  rintro ⟨p, s⟩ holds
  rw [write_eq]
  split
  next ready =>
    have released := accounting.ensures_releaseHeld_events p (p, s) ⟨rfl, holds⟩
    cases gave : releaseHeld (p, s) with
    | error e qt =>
      rw [gave] at released
      exact released
    | ok _ qt =>
      obtain ⟨q, t⟩ := qt
      rw [gave] at released
      obtain ⟨rfl, holds⟩ := released
      have migrated := accounting.ensures_submitMigration queue m.loadHandles .toDevice [] t holds.2
      dsimp only
      cases outcome : submitMigration queue m.loadHandles .toDevice [] t with
      | error e u =>
        rw [outcome] at migrated
        exact ⟨holds.1, migrated⟩
      | ok event u =>
        rw [outcome] at migrated
        exact accounting.holds_submitted holds _ ready (fun _ => p.event_emptied) migrated
  · exact holds

theorem holds_execute (queue : QueueHandle) (kernel : KernelHandle) :
    Preserves (Pipeline.Holds H rest) (execute queue kernel) := by
  rintro ⟨p, s⟩ holds
  rw [execute_eq]
  split
  next ready =>
    have asked := accounting.ensures_ask (.enqueueTask queue kernel p.load.event.toList) s holds.2
    cases outcome : ask (.enqueueTask queue kernel p.load.event.toList) s with
    | error e t =>
      rw [outcome] at asked
      exact ⟨holds.1, asked⟩
    | ok event t =>
      rw [outcome] at asked
      exact accounting.holds_submitted holds { event := some event } ready (by simp) asked
  · exact holds

theorem holds_read (queue : QueueHandle) (m : BufferManager) :
    Preserves (Pipeline.Holds H rest) (read queue m) := by
  rintro ⟨p, s⟩ holds
  rw [read_eq]
  split
  next ready =>
    have migrated := accounting.ensures_submitMigration queue m.storeHandles .toHost
      p.compute.event.toList s holds.2
    cases outcome : submitMigration queue m.storeHandles .toHost p.compute.event.toList s with
    | error e t =>
      rw [outcome] at migrated
      exact ⟨holds.1, migrated⟩
    | ok event t =>
      rw [outcome] at migrated
      exact accounting.holds_submitted holds _ ready (by simp) migrated
  · exact holds

theorem holds_finish (queue : QueueHandle) :
    Preserves (Pipeline.Holds H rest) (finish queue) := by
  rintro ⟨p, s⟩ holds
  have flushed := accounting.ensures_ask (.flush queue) s holds.2
  rw [finish_eq]
  cases outcome : ask (.flush queue) s with
  | error e t =>
    rw [outcome] at flushed
    exact ⟨holds.1, flushed⟩
  | ok _ t =>
    rw [outcome] at flushed
    have waited := accounting.ensures_ask (.finish queue) t flushed
    dsimp only
    cases outcome : ask (.finish queue) t with
    | error e u =>
      rw [outcome] at waited
      exact ⟨holds.1, waited⟩
    | ok _ u =>
      rw [outcome] at waited
      exact ⟨holds.1.finished, waited⟩

end

/-! ### Buffers -/

section
open BufferManager

/-- A new buffer is held, and one that it replaces is not any more. -/
theorem holds_create (context : ContextHandle) (args : ArgumentTable) (request : BufferRequest) :
    Preserves (fun ms : BufferManager × σ => H (ms.1.loans ++ rest) ms.2)
      (create context args request) := by
  rintro ⟨m, s⟩ h
  rw [create_eq]
  dsimp only
  have allocated := accounting.ensures_ask (.createBuffer context
    (m.allocationFlags request (.ofArgument (args.get? request.index))) request.size request.host
    ((BufferPlacement.ofArgument (args.get? request.index)).directive? request.host.isSome)) s h
  cases made : ask (.createBuffer context _ request.size request.host _) s with
  | error e t =>
    rw [made] at allocated
    exact allocated
  | ok handle t =>
    rw [made] at allocated
    dsimp only
    generalize new : ManagedBuffer.mk handle _ _ _ = b
    obtain rfl : b.handle = handle := by rw [← new]
    cases replaced : m.buffers.get? request.index with
    | none =>
      exact accounting.perm allocated ((loans_install_of_none b replaced).symm.append_right rest)
    | some old =>
      have held := accounting.perm allocated
        ((loans_install_of_some b replaced).symm.append_right rest)
      have freed := accounting.ensures_ask (.releaseBuffer old.handle) t held
      dsimp only
      cases outcome : ask (.releaseBuffer old.handle) t <;> rw [outcome] at freed <;> exact freed

/-- All buffers are given back, whether that succeeds or not. -/
theorem ensures_release_buffers (buffers : List ManagedBuffer)
    {fail : SessionError → σ → Prop} :
    Ensures (H ((buffers.map fun b => .buffer b.handle) ++ rest)) (release buffers)
      (fun _ => H rest) fail := by
  induction buffers with
  | nil => exact .pure fun _ h => h
  | cons b buffers ih =>
    refine (accounting.ensures_tryCall (.releaseBuffer b.handle)).bind fun outcome => ?_
    cases outcome with
    | ok _ => exact ih.bind fun _ => .pure fun _ h => h
    | error status => exact ih

theorem holds_releaseAll {m : BufferManager} {s : σ} (h : H (m.loans ++ rest) s) :
    H rest (Attempt.after releaseAll (m, s)).2 := by
  have released : Ensures (H (m.loans ++ rest)) (release m.buffers.values) (fun _ => H rest)
    (fun _ => H rest) := accounting.ensures_release_buffers m.buffers.values
  have forgotten : releaseAll (m, s) = onSecond (release m.buffers.values) (m.cleared, s) := rfl
  rw [after_eq, forgotten, stateOf_onSecond]
  exact released.stateOf h

end

/-! ### Sessions -/

section
open Session

theorem holds_onPipeline {x : Attempt (Pipeline × σ) α}
    (keeps : ∀ rest, Preserves (Pipeline.Holds H rest) x) :
    Preserves (Session.Holds H) (onPipeline x) := by
  rintro s ⟨vacant, h⟩
  have holds := keeps _ (s.pipeline, s.backend) ⟨vacant, accounting.perm h s.loans_perm_pipeline⟩
  rw [onPipeline, stateOf_within]
  generalize stateOf (x (s.pipeline, s.backend)) = pb at holds
  obtain ⟨p, b⟩ := pb
  exact ⟨holds.1, accounting.perm holds.2 (loans_perm_pipeline { s with pipeline := p }).symm⟩

theorem holds_step (step : Step) : Preserves (Session.Holds H) step.operation.perform := by
  have onPipeline {α : Type} {x : Attempt (Pipeline × σ) α} :=
    accounting.holds_onPipeline (x := x)
  cases step with
  | finish => exact Preserves.get.bind fun s => onPipeline fun _ => accounting.holds_finish _
  | submit stage =>
    cases stage with
    | load =>
      exact (Preserves.get.bind fun s => onPipeline fun _ => accounting.holds_write _ _).discard
    | compute =>
      exact (Preserves.get.bind fun s => onPipeline fun _ => accounting.holds_execute _ _).discard
    | store =>
      exact (Preserves.get.bind fun s => onPipeline fun _ => accounting.holds_read _ _).discard

/-- Every operation goes along with what is held, whatever fails. -/
theorem holds_perform (operation : Operation) :
    Preserves (Session.Holds H) operation.perform := by
  refine preserves_operation ?_ operation (fun request _ => ?_) accounting.holds_step
  · rintro r plain s ⟨vacant, h⟩
    exact ⟨vacant, accounting.idle h (Request.lends_of_isPlain plain)
      (Request.returns_of_isPlain plain)⟩
  · refine Preserves.get.bind fun u => ?_
    rintro s ⟨vacant, h⟩
    have holds := accounting.holds_create u.device.context u.args request (s.buffers, s.backend)
      (accounting.perm h s.loans_perm_buffers)
    rw [onBuffers, stateOf_within]
    generalize stateOf (BufferManager.create u.device.context u.args request
      (s.buffers, s.backend)) = mb at holds
    obtain ⟨m, b⟩ := mb
    exact ⟨vacant, accounting.perm holds (loans_perm_buffers { s with buffers := m }).symm⟩

/-- A session that is closed holds nothing any more. -/
theorem nothing_of_close {s : Session σ} (holds : Session.Holds H s) : H [] s.close := by
  have events := accounting.holds_releaseEvents
    ⟨holds.1, accounting.perm holds.2 s.loans_perm_pipeline⟩
  have buffers := accounting.holds_releaseAll
    (accounting.perm events (List.perm_append_singleton _ s.buffers.loans).symm)
  have context : Ensures (H [.context s.device.context])
    (BoundDevice.giveBack s.device.context) (fun _ => H []) (fun _ => H []) :=
      accounting.ensures_giveBack s.device.context
  rw [close]
  dsimp only
  rw [after_eq]
  exact context.stateOf buffers

/-- A session that begins holds the context of its device, and one that cannot begin leaves nothing
held. -/
theorem holds_start {backend : σ} (nothing : H [] backend) (image : Image)
    (config : SessionConfig) :
    match start image config backend with
    | .error (_, left) => H [] left
    | .ok s => Session.Holds H s := by
  have bound := accounting.ensures_resolve config.queue
    (config.effectiveEmulation image.emulation) image.identity image.bytes image.kernelName
    backend nothing
  rw [start]
  cases outcome : BoundDevice.resolve config.queue (config.effectiveEmulation image.emulation)
    image.identity image.bytes image.kernelName backend with
  | error e left =>
    rw [outcome] at bound
    exact bound
  | ok d t =>
    rw [outcome] at bound
    exact ⟨Pipeline.vacant_of_ready rfl, bound⟩

end

end Accounting

end FpgaHost
