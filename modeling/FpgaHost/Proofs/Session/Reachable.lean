import FpgaHost.Proofs.Session.Operations
import FpgaHost.Proofs.Session.Sound

/-!
# Reachable sessions

A session is reachable if it was begun on a reachable simulator and some history of operations leads
to it; each of them may have failed. All that a session owns is there when it begins, and every
operation keeps this, so a reachable session is sound (`sound_of_reachable`); its queue works as the
session was told, and its kernel has the name it was told (`identified_of_reachable`).
-/

namespace FpgaHost

open Steps Attempt

/-! ### Binding a device -/

namespace BoundDevice

section
variable {σ : Type} [ComputeApi σ] {P : σ → Prop}
  (keeps : ∀ s r, r.queue? = none → P s → P (Request.after r s))
include keeps

theorem preserves_takeDevice (name : String) (devices : List DeviceId) :
    Preserves P (takeDevice (σ := σ) name devices) := by
  induction devices with
  | nil => exact .pure none
  | cons device rest ih =>
    refine (preserves_ask fun s => keeps s _ rfl).bind fun found => ?_
    split
    · exact ih
    · refine (preserves_tryCall fun s => keeps s _ rfl).bind fun outcome => ?_
      cases outcome with
      | ok context => exact .pure _
      | error status =>
        dsimp only
        split
        · exact ih
        · exact .throw _

theorem preserves_takeOnPlatform (identity : DeviceIdentity) (platform : PlatformId) :
    Preserves P (takeOnPlatform (σ := σ) identity platform) := by
  refine (preserves_ask fun s => keeps s _ rfl).bind fun vendor => ?_
  split
  · exact .pure none
  · refine (preserves_tryCall fun s => keeps s _ rfl).bind fun outcome => ?_
    cases outcome with
    | ok devices => exact preserves_takeDevice keeps identity.device devices
    | error status =>
      dsimp only
      split
      · exact .pure none
      · exact .throw _

theorem preserves_takeAmong (identity : DeviceIdentity) (platforms : List PlatformId) :
    Preserves P (takeAmong (σ := σ) identity platforms) := by
  induction platforms with
  | nil => exact .throw _
  | cons platform rest ih =>
    refine (preserves_takeOnPlatform keeps identity platform).bind fun taken => ?_
    cases taken with
    | none => exact ih
    | some found => exact .pure _

theorem preserves_take (identity : DeviceIdentity) :
    Preserves P (take (σ := σ) identity) :=
  (preserves_ask fun s => keeps s _ rfl).bind fun platforms =>
    preserves_takeAmong keeps identity platforms

theorem preserves_instantiate (properties : QueueProperties) (context : ContextHandle)
    (device : DeviceId) (deviceName : String) (image : Bytes) (kernelName : String) :
    Preserves P (instantiate (σ := σ) properties context device deviceName image
      kernelName) := by
  refine (preserves_ask fun s => keeps s _ rfl).bind fun queue =>
    (preserves_ask fun s => keeps s _ rfl).bind fun build => Preserves.bind ?_ fun _ =>
    (preserves_ask fun s => keeps s _ rfl).bind fun kernel => .pure _
  rw [requireBuilt]
  cases build.deviceStatus.find? (!·.isSuccess) with
  | none => exact .pure ()
  | some status => exact .throw _

/-- Whatever every request that reaches no queue keeps is kept by binding a device. -/
theorem preserves_resolve (properties : QueueProperties) (emulation : Option Emulation)
    (identity : DeviceIdentity) (image : Bytes) (kernelName : String) :
    Preserves P (resolve (σ := σ) properties emulation identity image kernelName) := by
  refine (preserves_take keeps identity).bind fun ⟨platform, device, context⟩ => ?_
  refine Preserves.bind (Preserves.tryCatch ?_ fun e => Preserves.bind ?_ fun _ => .throw e)
    fun _ => .pure _
  · exact preserves_instantiate keeps properties context device identity.device image kernelName
  · exact (preserves_tryCall fun s => keeps s _ rfl).discard

end

variable {s t : Simulator}

/-- A queue that works as it was asked to and on which nothing is pending, and a kernel of a
name. -/
structure Made (properties : QueueProperties) (kernelName : String) (queue : QueueHandle)
    (kernel : KernelHandle) (s : Simulator) : Prop where
  /-- The queue. -/
  queue : s.queues.get? queue = some { properties }
  /-- The kernel. -/
  kernel : s.nameOf kernel = some kernelName

theorem stateOf_requireBuilt (deviceName : String) (build : ProgramBuild) (s : Simulator) :
    stateOf (requireBuilt deviceName build s) = s := by
  rw [requireBuilt]
  cases build.deviceStatus.find? (!·.isSuccess) <;> rfl

/-- What is made on a device is there. -/
theorem instantiate_ok {properties : QueueProperties} {context : ContextHandle}
    {device : DeviceId} {deviceName : String} {image : Bytes} {kernelName : String}
    {queue : QueueHandle} {program : ProgramHandle} {kernel : KernelHandle}
    (made : instantiate properties context device deviceName image kernelName s =
      .ok (queue, program, kernel) t) : Made properties kernelName queue kernel t := by
  obtain ⟨q, u, made_queue, made⟩ := Steps.bind_eq_ok_iff.1 made
  obtain ⟨build, v, built, made⟩ := Steps.bind_eq_ok_iff.1 made
  obtain ⟨⟨⟩, w, accepted, made⟩ := Steps.bind_eq_ok_iff.1 made
  obtain ⟨k, x, made_kernel, made⟩ := Steps.bind_eq_ok_iff.1 made
  cases made
  obtain rfl : w = v := by rw [← stateOf_requireBuilt deviceName build v, accepted, stateOf_ok]
  refine ⟨?_, Simulator.nameOf_of_createKernel (Simulator.ok_of_ask made_kernel).1⟩
  rw [Simulator.queues_of_ask rfl made_kernel, Simulator.queues_of_ask rfl built]
  exact Simulator.get?_of_createQueue (Simulator.ok_of_ask made_queue).1

/-- A device that is bound has its queue and its kernel. -/
theorem resolve_ok {properties : QueueProperties} {emulation : Option Emulation}
    {identity : DeviceIdentity} {image : Bytes} {kernelName : String} {d : BoundDevice}
    (bound : resolve properties emulation identity image kernelName s = .ok d t) :
    Made properties kernelName d.queue d.kernel t := by
  obtain ⟨⟨platform, device, context⟩, u, taken, bound⟩ := Steps.bind_eq_ok_iff.1 bound
  dsimp only at bound
  rw [bind_apply, tryCatch_apply] at bound
  cases made : instantiate properties context device identity.device image kernelName u with
  | error e v =>
    obtain ⟨e', w, failed⟩ := bind_throw (β := QueueHandle × ProgramHandle × KernelHandle)
      (giveBack context : Attempt Simulator Unit) e v
    rw [made] at bound
    dsimp only at bound
    rw [failed] at bound
    contradiction
  | ok answer v =>
    rw [made] at bound
    cases bound
    exact instantiate_ok made

end BoundDevice

/-! ### Sound sessions -/

namespace Session

/-- What a session owns is there, and so are the events that it holds. -/
def Sound (s : Session Simulator) : Prop := Pipeline.Good s.device s.buffers (s.pipeline, s.backend)

section
variable {σ : Type} [ComputeApi σ] {image : Image} {config : SessionConfig} {backend : σ}
  {s : Session σ} (started : start image config backend = .ok s)
include started

/-- Whatever every request that reaches no queue keeps is kept as a session begins. -/
theorem kept_of_start {P : σ → Prop}
    (keeps : ∀ s r, r.queue? = none → P s → P (Request.after r s)) (h : P backend) :
    P s.backend := by
  have kept := BoundDevice.preserves_resolve keeps config.queue
    (config.effectiveEmulation image.emulation) image.identity image.bytes image.kernelName backend h
  rw [start] at started
  split at started
  · contradiction
  next d t bound =>
    rw [bound] at kept
    cases started
    exact kept

/-- A session begins without buffers, and its pipeline holds nothing. -/
theorem new_of_start :
    s.buffers = { forceHostPointer := config.forceHostPointer } ∧ s.pipeline = {} := by
  rw [start] at started
  split at started
  · contradiction
  · cases started
    exact ⟨rfl, rfl⟩

end

section
variable {image : Image} {config : SessionConfig} {backend : Simulator} {s : Session Simulator}
  (started : start image config backend = .ok s)
include started

/-- What a session has as it begins: its queue and its kernel, and nothing else. -/
theorem made_of_start :
    BoundDevice.Made s.config.queue s.kernelName s.device.queue s.device.kernel s.backend ∧
      s.buffers = { forceHostPointer := config.forceHostPointer } ∧ s.pipeline = {} := by
  refine ⟨?_, new_of_start started⟩
  rw [start] at started
  split at started
  · contradiction
  next d t bound =>
    have made := BoundDevice.resolve_ok bound
    cases started
    exact made

theorem numbered_of_start (numbered : backend.Numbered) : s.backend.Numbered :=
  kept_of_start started (fun s r _ h => h.does (Simulator.does_next s r)) numbered

/-- A session that begins is sound. -/
theorem sound_of_start (numbered : backend.Numbered) : s.Sound := by
  obtain ⟨⟨queue, kernel⟩, buffers, pipeline⟩ := made_of_start started
  obtain ⟨k, named, -⟩ := Option.map_eq_some_iff.1 kernel
  have none : ∀ stage, s.pipeline.event stage = none := fun stage => by
    rw [pipeline]
    cases stage <;> rfl
  have backed : s.buffers.Backed s.backend := by
    refine ⟨fun index b found => ?_, fun i j b c found => ?_⟩ <;> rw [buffers] at found <;>
      contradiction
  exact ⟨⟨numbered_of_start started numbered, Table.contains_iff.2 ⟨_, queue⟩,
    Table.contains_iff.2 ⟨k, named⟩, backed⟩, Pipeline.held_of_none none s.device.queue s.backend⟩

end

/-! ### Histories of operations -/

/-- The sessions that some history leads to. -/
inductive Reachable : Session Simulator → Prop
  /-- It begins. -/
  | start {backend : Simulator} {image : Image} {config : SessionConfig} {s : Session Simulator}
      (reachable : backend.Reachable) (started : start image config backend = .ok s) : Reachable s
  /-- One more operation, which may fail. -/
  | perform {s : Session Simulator} (reachable : Reachable s) (operation : Operation) :
      Reachable (stateOf (operation.perform s))

/-! ### What operations keep -/

/-- Every step of a cycle keeps a session sound, whether it succeeds or not. -/
theorem preserves_step (step : Step) : Preserves Sound step.operation.perform := by
  refine preserves_of_action fun s => ?_
  cases step with
  | finish => exact Pipeline.preserves_finish s.device.queue
  | submit stage =>
    cases stage with
    | load => exact (Pipeline.preserves_write s.buffers).discard
    | compute => exact (Pipeline.preserves_execute s.device.kernel).discard
    | store => exact (Pipeline.preserves_read s.buffers).discard

/-- Every operation keeps a session sound, whether it succeeds or not. -/
theorem preserves_perform (operation : Operation) :
    Preserves Sound operation.perform := by
  refine preserves_operation ?_ operation (fun request _ => ?_) preserves_step
  · intro r plain s sound
    obtain ⟨events, buffers⟩ := Request.gives_nothing_back plain
    exact sound.next events buffers
  · refine Preserves.get.bind fun s => preserves_onBuffers fun v => ?_
    exact Pipeline.preserves_create s.device.context s.args request

/-- Every session that some history leads to is sound. -/
theorem sound_of_reachable {s : Session Simulator} (reachable : s.Reachable) : s.Sound := by
  induction reachable with
  | start reachable started => exact sound_of_start started reachable.numbered
  | perform _ operation ih => exact preserves_perform operation _ ih

/-- The simulator of a reachable session is reachable. -/
theorem Reachable.backend {s : Session Simulator} (reachable : s.Reachable) :
    s.backend.Reachable := by
  induction reachable with
  | start reachable started => exact kept_of_start started (fun _ r _ h => h.next r) reachable
  | perform _ operation ih =>
    exact preserves_of_requests (P := fun v => Simulator.Reachable v.backend) (fun r _ _ h => h.next r)
      (fun _ _ _ h => h) operation _ ih

/-! ### What a session was told -/

/-- The queue works as the session was told, and the kernel has the name it was told. -/
structure Identified (s : Session Simulator) : Prop where
  /-- Handles are numbered. -/
  numbered : s.backend.Numbered
  /-- The queue. -/
  queue : s.backend.propertiesOf s.device.queue = some s.config.queue
  /-- The kernel. -/
  kernel : s.backend.nameOf s.device.kernel = some s.kernelName

/-- No request changes that, and no operation makes anything but requests. -/
theorem preserves_identified (operation : Operation) :
    Preserves Identified operation.perform := by
  refine preserves_of_requests ?_ (fun s m p identified => ?_) operation
  · rintro r s - ⟨numbered, queue, kernel⟩
    have does := Simulator.does_next s.backend r
    have retains := numbered.retains does
    obtain ⟨q, found, -⟩ := Option.map_eq_some_iff.1 queue
    obtain ⟨k, named, -⟩ := Option.map_eq_some_iff.1 kernel
    refine ⟨numbered.does does, ?_, ?_⟩
    · exact (retains.queues _ (Table.contains_iff.2 ⟨q, found⟩)).trans queue
    · exact (retains.kernels _ (Table.contains_iff.2 ⟨k, named⟩)).trans kernel
  · exact ⟨identified.numbered, identified.queue, identified.kernel⟩

theorem identified_of_reachable {s : Session Simulator} (reachable : s.Reachable) :
    s.Identified := by
  induction reachable with
  | start reachable started =>
    obtain ⟨⟨queue, kernel⟩, -⟩ := made_of_start started
    refine ⟨numbered_of_start started reachable.numbered, ?_, kernel⟩
    rw [Simulator.propertiesOf, queue]
    rfl
  | perform _ operation ih => exact preserves_identified operation _ ih

/-- What a session was told stays. -/
theorem preserves_config (c : SessionConfig) (operation : Operation) :
    Preserves (fun s : Session Simulator => s.config = c) operation.perform :=
  preserves_of_requests (fun _ _ _ same => same) (fun _ _ _ same => same) operation

theorem config_performAll (s : Session Simulator) (operations : List Operation) :
    (s.performAll operations).config = s.config :=
  holds_performAll (P := fun t : Session Simulator => t.config = s.config)
    (preserves_config s.config) rfl operations

/-- Steps that succeed lead to a reachable session that was told the same. -/
theorem run_ok {s t : Session Simulator} {steps : List Step} (reachable : s.Reachable)
    (ran : run steps s = .ok () t) : t.Reachable ∧ t.config = s.config := by
  induction steps generalizing s with
  | nil =>
    cases ran
    exact ⟨reachable, rfl⟩
  | cons step rest ih =>
    rw [run_cons] at ran
    have later := reachable.perform step.operation
    have same := preserves_config s.config step.operation s rfl
    cases first : step.operation.perform s with
    | error e u =>
      rw [first] at ran
      contradiction
    | ok _ u =>
      rw [first] at ran later same
      obtain ⟨reached, told⟩ := ih later ran
      exact ⟨reached, told.trans same⟩

end Session

end FpgaHost
