import FpgaHost.Proofs.Device.Calls
import FpgaHost.Simulator.Calls

/-!
# The calls of the simulator as decisions

Every call of the simulator but the start of a queue is a decision: its checks in order, each with
the status it fails with, and then one change of the state. This module states each call in that
form, so that no later proof opens a call again.
-/

namespace FpgaHost.Simulator

open Call Steps

variable (s : Simulator)

/-! ### Platforms, devices and contexts -/

theorem fresh_bind {α : Type} {resource : Resource} (f : Handle resource → Call Simulator α) :
    (fresh >>= f) s = f ⟨s.nextId⟩ { s with nextId := s.nextId + 1 } := rfl

theorem requireDevice_bind {α : Type} (device : DeviceId) (f : SimulatedDevice → Call Simulator α) :
    (requireDevice device >>= f) s = match s.device? device with
      | none => .error .deviceNotFound s
      | some d => f d s := by
  rw [requireDevice, bind_assoc, get_bind, require_bind]
  cases s.device? device <;> rfl

theorem requirePlatform_bind {α : Type} (platform : PlatformId) (f : Platform → Call Simulator α) :
    (requirePlatform platform >>= f) s = match s.platform? platform with
      | none => .error .invalidValue s
      | some p => f p s := by
  rw [requirePlatform, bind_assoc, get_bind, require_bind]
  cases s.platform? platform <;> rfl

theorem acceleratorDevices_eq (platform : PlatformId) :
    acceleratorDevices platform s = match s.platform? platform with
      | none => .error .invalidValue s
      | some p => if p.devices.isEmpty then .error .deviceNotFound s else .ok p.devices s := by
  simp only [acceleratorDevices, requirePlatform_bind, refuseIf_bind, pure_apply]

theorem createContext_eq (device : DeviceId) :
    createContext device s = match s.device? device with
      | none => .error .deviceNotFound s
      | some d =>
        if d.busy then .error .deviceNotAvailable s
        else .ok ⟨s.nextId⟩ { s with
          nextId := s.nextId + 1
          contexts := s.contexts.insert ⟨s.nextId⟩ device } := by
  simp only [createContext, requireDevice_bind, refuseIf_bind, fresh_bind, modify_bind, pure_apply]

theorem releaseContext_eq (context : ContextHandle) :
    releaseContext context s =
      if !s.contexts.contains context then .error .invalidValue s
      else .ok () { s with contexts := s.contexts.erase context } := by
  simp only [releaseContext, get_bind, refuseIf_bind, modify_apply]

theorem createQueue_eq (context : ContextHandle) (device : DeviceId) (properties : QueueProperties) :
    createQueue context device properties s =
      if s.contexts.get? context != some device then .error .invalidValue s
      else .ok ⟨s.nextId⟩ { s with
        nextId := s.nextId + 1
        queues := s.queues.insert ⟨s.nextId⟩ { properties } } := by
  simp only [createQueue, get_bind, refuseIf_bind, fresh_bind, modify_bind, pure_apply]

/-! ### Programs, kernels and streams -/

theorem buildProgram_eq (context : ContextHandle) (devices : List DeviceId) (image : Bytes) :
    buildProgram context devices image s =
      if !s.contexts.contains context then .error .invalidValue s
      else
        let parsed := Image.ofBytes image
        let deviceStatus := devices.map (s.buildStatus parsed)
        .ok { program := ⟨s.nextId⟩, deviceStatus } { s with
          nextId := s.nextId + 1
          programs := s.programs.insert ⟨s.nextId⟩ (builtKernels parsed deviceStatus) } := by
  simp only [buildProgram, get_bind, refuseIf_bind, fresh_bind, modify_bind, pure_apply]

theorem createKernel_eq (program : ProgramHandle) (name : String) :
    createKernel program name s = match s.programs.get? program with
      | none => .error .invalidValue s
      | some kernels =>
        if !kernels.contains name then .error .invalidKernelName s
        else .ok ⟨s.nextId⟩ { s with
          nextId := s.nextId + 1
          kernels := s.kernels.insert ⟨s.nextId⟩ { name } } := by
  simp only [createKernel, get_bind, require_bind, refuseIf_bind, fresh_bind, modify_bind,
    pure_apply]
  cases s.programs.get? program <;> rfl

theorem setKernelArg_eq (kernel : KernelHandle) (index : Nat) (value : KernelArg) :
    setKernelArg kernel index value s =
      if s.isDangling value then .error .invalidMemObject s
      else if !s.kernels.contains kernel then .error .invalidValue s
      else .ok () { s with
        kernels := s.kernels.modify kernel fun k => { k with args := k.args.insert index value } } := by
  simp only [setKernelArg, get_bind, refuseIf_bind, set_apply]

theorem createStream_eq (device : DeviceId) (direction : StreamDirection) (kernel : KernelHandle)
    (index : Nat) :
    createStream device direction kernel index s = match s.device? device with
      | none => .error .deviceNotFound s
      | some _ =>
        if !s.kernels.contains kernel then .error .invalidValue s
        else .ok ⟨s.nextId⟩ { s with
          nextId := s.nextId + 1
          streams := s.streams.insert ⟨s.nextId⟩ { kernel, index, direction } } := by
  simp only [createStream, requireDevice_bind, get_bind, refuseIf_bind, fresh_bind, modify_bind,
    pure_apply]

/-! ### Buffers -/

/-- The state after a buffer is allocated. -/
def allocated (allocation : Allocation) (host : Option Bytes) : Simulator :=
  { s with
    nextId := s.nextId + 1
    buffers := s.buffers.insert ⟨s.nextId⟩ (newBuffer allocation host) }

theorem createBuffer_eq (context : ContextHandle) (flags : MemFlags) (size : Nat)
    (host : Option Bytes) (ext : Option ExtPtr) :
    createBuffer context flags size host ext s =
      if !s.contexts.contains context then .error .invalidValue s
      else if size == 0 then .error .invalidValue s
      else if host.any (·.size < size) then .error .invalidValue s
      else .ok ⟨s.nextId⟩ (s.allocated { flags, ext, size } host) := by
  simp only [createBuffer, get_bind, refuseIf_bind, fresh_bind, modify_bind, pure_apply, allocated]

theorem requireBuffer_bind {α : Type} (buffer : BufferHandle) (f : Buffer → Call Simulator α) :
    (requireBuffer buffer >>= f) s = match s.buffers.get? buffer with
      | none => .error .invalidMemObject s
      | some b => f b s := by
  rw [requireBuffer, bind_assoc, get_bind, require_bind]
  cases s.buffers.get? buffer <;> rfl

theorem releaseBuffer_eq (buffer : BufferHandle) :
    releaseBuffer buffer s = match s.buffers.get? buffer with
      | none => .error .invalidMemObject s
      | some _ => .ok () { s with buffers := s.buffers.erase buffer } := by
  simp only [releaseBuffer, requireBuffer_bind, modify_apply]

theorem hostMemory_eq (buffer : BufferHandle) :
    hostMemory buffer s = match s.buffers.get? buffer with
      | none => .error .invalidMemObject s
      | some b => .ok b.host s := by
  simp only [hostMemory, requireBuffer_bind, pure_apply]

theorem overwriteHost_eq (buffer : BufferHandle) (offset : Nat) (data : Bytes) :
    overwriteHost buffer offset data s = match s.buffers.get? buffer with
      | none => .error .invalidMemObject s
      | some b => .ok b.host.size { s with
          buffers := s.buffers.modify buffer fun b =>
            { b with host := b.host.overwrite offset data } } := by
  simp only [overwriteHost, requireBuffer_bind, modify_bind, pure_apply]

/-! ### Commands and events -/

/-- The state after a command is put into a queue that is there. -/
def submitted (queue : QueueHandle) (profiling : Bool) (command : Command)
    (wait : List EventHandle) : Simulator :=
  { s with
    clock := s.clock + enqueueTime
    nextId := s.nextId + 1
    events := s.events.insert ⟨s.nextId⟩
      { command, wait, profiling, queued := s.clock + enqueueTime }
    queues := s.queues.modify queue fun q => { q with pending := q.pending ++ [⟨s.nextId⟩] } }

theorem submit_eq (queue : QueueHandle) (command : Command) (wait : List EventHandle) :
    submit queue command wait s =
      if wait.any fun e => (s.liveEvent? e).isNone then .error .invalidEvent s
      else match s.queues.get? queue with
        | none => .error .invalidValue s
        | some q => .ok ⟨s.nextId⟩ (s.submitted queue q.properties.profiling command wait) := by
  simp only [submit, get_bind, refuseIf_bind, require_bind, set_bind, pure_apply, submitted]
  cases s.queues.get? queue <;> rfl

theorem enqueueMigrate_eq (queue : QueueHandle) (buffers : List BufferHandle)
    (direction : Direction) (wait : List EventHandle) :
    enqueueMigrate queue buffers direction wait s =
      if buffers.isEmpty then .error .invalidValue s
      else if buffers.any fun b => !s.buffers.contains b then .error .invalidMemObject s
      else submit queue (.migrate buffers direction) wait s := by
  simp only [enqueueMigrate, get_bind, refuseIf_bind]

theorem enqueueTask_eq (queue : QueueHandle) (kernel : KernelHandle) (wait : List EventHandle) :
    enqueueTask queue kernel wait s =
      if !s.kernels.contains kernel then .error .invalidValue s
      else submit queue (.task kernel) wait s := by
  simp only [enqueueTask, get_bind, refuseIf_bind]

theorem requireEvent_bind {α : Type} (event : EventHandle) (f : EventRecord → Call Simulator α) :
    (requireEvent event >>= f) s = match s.liveEvent? event with
      | none => .error .invalidEvent s
      | some record => f record s := by
  rw [requireEvent, bind_assoc, get_bind, require_bind]
  cases s.liveEvent? event <;> rfl

theorem profilingInfo_eq (event : EventHandle) (instant : Instant) :
    profilingInfo event instant s = match s.liveEvent? event with
      | none => .error .invalidEvent s
      | some record =>
        if !record.profiling then .error .profilingInfoNotAvailable s
        else match record.instant? instant with
          | none => .error .profilingInfoNotAvailable s
          | some time => .ok time s := by
  simp only [profilingInfo, requireEvent_bind, refuseIf_bind, require_apply]
  cases s.liveEvent? event with
  | none => rfl
  | some record =>
    dsimp only
    cases record.instant? instant <;> rfl

/-- The state after an event is marked as given back. -/
def eventReleased (event : EventHandle) : Simulator :=
  { s with events := s.events.modify event fun r => { r with released := true } }.collectReleased

theorem releaseEvent_eq (event : EventHandle) :
    releaseEvent event s = match s.liveEvent? event with
      | none => .error .invalidEvent s
      | some _ => .ok () (s.eventReleased event) := by
  simp only [releaseEvent, requireEvent_bind, modify_apply, eventReleased]

end FpgaHost.Simulator
