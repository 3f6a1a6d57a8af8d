import FpgaHost.Proofs.Simulator.Contexts

/-!
# Refused requests

A request can be objected to on several grounds, and `objections` lists them in the order in which
they are looked at. A request that does not start a queue is refused exactly if some objection
holds; it fails with the status of the first one that does, and by then nothing has changed
(`call_eq_error_iff`). So a history comes to the same without its refused requests
(`nexts_unrefused`).

Starting a queue is different: its commands run one after the other, and those that ran before one
that cannot have done what they do.
-/

namespace FpgaHost

/-- A ground on which a request is refused. -/
structure Objection where
  /-- Whether there is that ground. -/
  holds : Bool
  /-- The status that tells it. -/
  status : Status

/-- The status of an objection that holds. -/
def Objection.raised? (o : Objection) : Option Status := if o.holds then some o.status else none

namespace Simulator

open Call Steps

/-- What is to be said against a command for a queue that waits for some events: one of them is not
known any more, or there is no such queue. -/
def commandObjections (s : Simulator) (queue : QueueHandle) (wait : List EventHandle) :
    List Objection :=
  [⟨wait.any fun e => (s.liveEvent? e).isNone, .invalidEvent⟩,
    ⟨(s.queues.get? queue).isNone, .invalidValue⟩]

/-- What is to be said against a request, the first ground first. Against the start of a queue it is
only that there is none. -/
def objections (s : Simulator) : Request → List Objection
  | .platforms => []
  | .platformName platform => [⟨(s.platform? platform).isNone, .invalidValue⟩]
  | .acceleratorDevices platform =>
    [⟨(s.platform? platform).isNone, .invalidValue⟩,
      ⟨(s.platform? platform).any (·.devices.isEmpty), .deviceNotFound⟩]
  | .deviceName device => [⟨(s.device? device).isNone, .deviceNotFound⟩]
  | .createContext device =>
    [⟨(s.device? device).isNone, .deviceNotFound⟩,
      ⟨(s.device? device).any (·.busy), .deviceNotAvailable⟩]
  | .releaseContext context => [⟨!s.contexts.contains context, .invalidValue⟩]
  | .createQueue context device _ =>
    [⟨s.contexts.get? context != some device, .invalidValue⟩]
  | .buildProgram context _ _ => [⟨!s.contexts.contains context, .invalidValue⟩]
  | .createKernel program name =>
    [⟨(s.programs.get? program).isNone, .invalidValue⟩,
      ⟨(s.programs.get? program).any (!·.contains name), .invalidKernelName⟩]
  | .setKernelArg kernel _ value =>
    [⟨s.isDangling value, .invalidMemObject⟩, ⟨!s.kernels.contains kernel, .invalidValue⟩]
  | .createBuffer context _ size host _ =>
    [⟨!s.contexts.contains context, .invalidValue⟩, ⟨size == 0, .invalidValue⟩,
      ⟨host.any (·.size < size), .invalidValue⟩]
  | .releaseBuffer buffer => [⟨(s.buffers.get? buffer).isNone, .invalidMemObject⟩]
  | .hostMemory buffer => [⟨(s.buffers.get? buffer).isNone, .invalidMemObject⟩]
  | .overwriteHost buffer _ _ => [⟨(s.buffers.get? buffer).isNone, .invalidMemObject⟩]
  | .enqueueMigrate queue buffers _ wait =>
    ⟨buffers.isEmpty, .invalidValue⟩ ::
      ⟨buffers.any fun b => !s.buffers.contains b, .invalidMemObject⟩ ::
        s.commandObjections queue wait
  | .enqueueTask queue kernel wait =>
    ⟨!s.kernels.contains kernel, .invalidValue⟩ :: s.commandObjections queue wait
  | .profilingInfo event instant =>
    [⟨(s.liveEvent? event).isNone, .invalidEvent⟩,
      ⟨(s.liveEvent? event).any (!·.profiling), .profilingInfoNotAvailable⟩,
      ⟨(s.liveEvent? event).any fun record => (record.instant? instant).isNone,
        .profilingInfoNotAvailable⟩]
  | .releaseEvent event => [⟨(s.liveEvent? event).isNone, .invalidEvent⟩]
  | .flush queue => [⟨(s.queues.get? queue).isNone, .invalidValue⟩]
  | .finish queue => [⟨(s.queues.get? queue).isNone, .invalidValue⟩]
  | .createStream device _ kernel _ =>
    [⟨(s.device? device).isNone, .deviceNotFound⟩, ⟨!s.kernels.contains kernel, .invalidValue⟩]

/-- The status with which a request is refused before anything is done. -/
def refusal? (s : Simulator) (r : Request) : Option Status :=
  (s.objections r).findSome? Objection.raised?

/-- How a request ends that is refused in full or carried out. -/
inductive Verdict (s : Simulator) {α : Type} (objections : List Objection) :
    EStateM.Result Status Simulator α → Prop
  /-- The first objection that holds is told, and nothing is done. -/
  | refused {status : Status} (first : objections.findSome? Objection.raised? = some status) :
      Verdict s objections (.error status s)
  /-- No objection holds. -/
  | answered (answer : α) (t : Simulator) (none : objections.findSome? Objection.raised? = none) :
      Verdict s objections (.ok answer t)

section
variable {s : Simulator} {α : Type} {outcome : EStateM.Result Status Simulator α}
  {objections : List Objection}

/-- An objection that is looked at before all others. -/
theorem Verdict.cons {holds : Bool} {status : Status}
    (rest : holds = false → Verdict s objections outcome) :
    Verdict s (⟨holds, status⟩ :: objections) (if holds then .error status s else outcome) := by
  cases holds with
  | true => exact .refused rfl
  | false =>
    cases rest rfl with
    | refused first => exact .refused first
    | answered answer t none => exact .answered answer t none

/-- An objection that does not hold. -/
theorem Verdict.skip {status : Status} (rest : Verdict s objections outcome) :
    Verdict s (⟨false, status⟩ :: objections) outcome :=
  .cons fun _ => rest

end

section
variable (s : Simulator)

/-! ### Platforms, devices and contexts -/

theorem verdict_platformName (platform : PlatformId) :
    Verdict s (s.objections (.platformName platform))
      (ComputeApi.call (.platformName platform) s) := by
  simp only [ComputeApi.call, requirePlatform_bind, pure_apply, objections]
  cases s.platform? platform with
  | none => exact .refused rfl
  | some _ => exact .skip (.answered _ _ rfl)

theorem verdict_acceleratorDevices (platform : PlatformId) :
    Verdict s (s.objections (.acceleratorDevices platform))
      (ComputeApi.call (.acceleratorDevices platform) s) := by
  simp only [ComputeApi.call, acceleratorDevices_eq, objections]
  cases s.platform? platform with
  | none => exact .refused rfl
  | some _ => exact .skip (.cons fun _ => .answered _ _ rfl)

theorem verdict_deviceName (device : DeviceId) :
    Verdict s (s.objections (.deviceName device))
      (ComputeApi.call (.deviceName device) s) := by
  simp only [ComputeApi.call, requireDevice_bind, pure_apply, objections]
  cases s.device? device with
  | none => exact .refused rfl
  | some _ => exact .skip (.answered _ _ rfl)

theorem verdict_createContext (device : DeviceId) :
    Verdict s (s.objections (.createContext device))
      (ComputeApi.call (.createContext device) s) := by
  simp only [ComputeApi.call, createContext_eq, objections]
  cases s.device? device with
  | none => exact .refused rfl
  | some _ => exact .skip (.cons fun _ => .answered _ _ rfl)

theorem verdict_releaseContext (context : ContextHandle) :
    Verdict s (s.objections (.releaseContext context))
      (ComputeApi.call (.releaseContext context) s) := by
  simp only [ComputeApi.call, releaseContext_eq]
  exact .cons fun _ => .answered _ _ rfl

theorem verdict_createQueue (context : ContextHandle) (device : DeviceId)
    (properties : QueueProperties) :
    Verdict s (s.objections (.createQueue context device properties))
      (ComputeApi.call (.createQueue context device properties) s) := by
  simp only [ComputeApi.call, createQueue_eq]
  exact .cons fun _ => .answered _ _ rfl

/-! ### Programs, kernels and streams -/

theorem verdict_buildProgram (context : ContextHandle) (devices : List DeviceId) (image : Bytes) :
    Verdict s (s.objections (.buildProgram context devices image))
      (ComputeApi.call (.buildProgram context devices image) s) := by
  simp only [ComputeApi.call, buildProgram_eq]
  exact .cons fun _ => .answered _ _ rfl

theorem verdict_createKernel (program : ProgramHandle) (name : String) :
    Verdict s (s.objections (.createKernel program name))
      (ComputeApi.call (.createKernel program name) s) := by
  simp only [ComputeApi.call, createKernel_eq, objections]
  cases s.programs.get? program with
  | none => exact .refused rfl
  | some _ => exact .skip (.cons fun _ => .answered _ _ rfl)

theorem verdict_setKernelArg (kernel : KernelHandle) (index : Nat) (value : KernelArg) :
    Verdict s (s.objections (.setKernelArg kernel index value))
      (ComputeApi.call (.setKernelArg kernel index value) s) := by
  simp only [ComputeApi.call, setKernelArg_eq]
  exact .cons fun _ => .cons fun _ => .answered _ _ rfl

theorem verdict_createStream (device : DeviceId) (direction : StreamDirection) (kernel : KernelHandle)
    (index : Nat) :
    Verdict s (s.objections (.createStream device direction kernel index))
      (ComputeApi.call (.createStream device direction kernel index) s) := by
  simp only [ComputeApi.call, createStream_eq, objections]
  cases s.device? device with
  | none => exact .refused rfl
  | some _ => exact .skip (.cons fun _ => .answered _ _ rfl)

/-! ### Buffers -/

theorem verdict_createBuffer (context : ContextHandle) (flags : MemFlags) (size : Nat)
    (host : Option Bytes) (ext : Option ExtPtr) :
    Verdict s (s.objections (.createBuffer context flags size host ext))
      (ComputeApi.call (.createBuffer context flags size host ext) s) := by
  simp only [ComputeApi.call, createBuffer_eq]
  exact .cons fun _ => .cons fun _ => .cons fun _ => .answered _ _ rfl

theorem verdict_releaseBuffer (buffer : BufferHandle) :
    Verdict s (s.objections (.releaseBuffer buffer))
      (ComputeApi.call (.releaseBuffer buffer) s) := by
  simp only [ComputeApi.call, releaseBuffer_eq, objections]
  cases s.buffers.get? buffer with
  | none => exact .refused rfl
  | some _ => exact .skip (.answered _ _ rfl)

theorem verdict_hostMemory (buffer : BufferHandle) :
    Verdict s (s.objections (.hostMemory buffer))
      (ComputeApi.call (.hostMemory buffer) s) := by
  simp only [ComputeApi.call, hostMemory_eq, objections]
  cases s.buffers.get? buffer with
  | none => exact .refused rfl
  | some _ => exact .skip (.answered _ _ rfl)

theorem verdict_overwriteHost (buffer : BufferHandle) (offset : Nat) (data : Bytes) :
    Verdict s (s.objections (.overwriteHost buffer offset data))
      (ComputeApi.call (.overwriteHost buffer offset data) s) := by
  simp only [ComputeApi.call, overwriteHost_eq, objections]
  cases s.buffers.get? buffer with
  | none => exact .refused rfl
  | some _ => exact .skip (.answered _ _ rfl)

/-! ### Commands and events -/

theorem verdict_submit (queue : QueueHandle) (command : Command) (wait : List EventHandle) :
    Verdict s (s.commandObjections queue wait) (submit queue command wait s) := by
  rw [submit_eq]
  refine .cons fun _ => ?_
  cases s.queues.get? queue with
  | none => exact .refused rfl
  | some _ => exact .skip (.answered _ _ rfl)

theorem verdict_enqueueMigrate (queue : QueueHandle) (buffers : List BufferHandle)
    (direction : Direction) (wait : List EventHandle) :
    Verdict s (s.objections (.enqueueMigrate queue buffers direction wait))
      (ComputeApi.call (.enqueueMigrate queue buffers direction wait) s) := by
  simp only [ComputeApi.call, enqueueMigrate_eq]
  exact .cons fun _ => .cons fun _ => verdict_submit s queue (.migrate buffers direction) wait

theorem verdict_enqueueTask (queue : QueueHandle) (kernel : KernelHandle) (wait : List EventHandle) :
    Verdict s (s.objections (.enqueueTask queue kernel wait))
      (ComputeApi.call (.enqueueTask queue kernel wait) s) := by
  simp only [ComputeApi.call, enqueueTask_eq]
  exact .cons fun _ => verdict_submit s queue (.task kernel) wait

theorem verdict_profilingInfo (event : EventHandle) (instant : Instant) :
    Verdict s (s.objections (.profilingInfo event instant))
      (ComputeApi.call (.profilingInfo event instant) s) := by
  simp only [ComputeApi.call, profilingInfo_eq, objections]
  cases s.liveEvent? event with
  | none => exact .refused rfl
  | some record =>
    refine .skip (.cons fun _ => ?_)
    simp only [Option.any_some]
    cases record.instant? instant with
    | none => exact .refused rfl
    | some _ => exact .skip (.answered _ _ rfl)

theorem verdict_releaseEvent (event : EventHandle) :
    Verdict s (s.objections (.releaseEvent event))
      (ComputeApi.call (.releaseEvent event) s) := by
  simp only [ComputeApi.call, releaseEvent_eq, objections]
  cases s.liveEvent? event with
  | none => exact .refused rfl
  | some _ => exact .skip (.answered _ _ rfl)

/-! ### All requests -/

/-- A request that does not start a queue is refused in full or carried out. -/
theorem verdict_call {r : Request} (starts : r.starts? = none) :
    Verdict s (s.objections r) (ComputeApi.call r s) := by
  cases r with
  | flush queue => contradiction
  | finish queue => contradiction
  | platforms => exact .answered _ s rfl
  | platformName platform => exact verdict_platformName s platform
  | acceleratorDevices platform => exact verdict_acceleratorDevices s platform
  | deviceName device => exact verdict_deviceName s device
  | createContext device => exact verdict_createContext s device
  | releaseContext context => exact verdict_releaseContext s context
  | createQueue context device properties => exact verdict_createQueue s context device properties
  | buildProgram context devices image => exact verdict_buildProgram s context devices image
  | createKernel program name => exact verdict_createKernel s program name
  | setKernelArg kernel index value => exact verdict_setKernelArg s kernel index value
  | createStream device direction kernel index =>
    exact verdict_createStream s device direction kernel index
  | createBuffer context flags size host ext =>
    exact verdict_createBuffer s context flags size host ext
  | releaseBuffer buffer => exact verdict_releaseBuffer s buffer
  | hostMemory buffer => exact verdict_hostMemory s buffer
  | overwriteHost buffer offset data => exact verdict_overwriteHost s buffer offset data
  | enqueueMigrate queue buffers direction wait =>
    exact verdict_enqueueMigrate s queue buffers direction wait
  | enqueueTask queue kernel wait => exact verdict_enqueueTask s queue kernel wait
  | profilingInfo event instant => exact verdict_profilingInfo s event instant
  | releaseEvent event => exact verdict_releaseEvent s event

end

/-- A request that does not start a queue fails exactly if an objection to it holds: with the status
of the first objection that does, and nothing has changed. -/
theorem call_eq_error_iff (s : Simulator) {r : Request} (starts : r.starts? = none)
    {status : Status} {t : Simulator} :
    ComputeApi.call r s = .error status t ↔ s.refusal? r = some status ∧ t = s := by
  have verdict := verdict_call s starts
  rw [refusal?]
  generalize ComputeApi.call r s = outcome at verdict
  cases verdict with
  | refused first =>
    rw [first]
    constructor
    · rintro ⟨⟩
      exact ⟨rfl, rfl⟩
    · rintro ⟨⟨⟩, rfl⟩
      rfl
  | answered answer u none =>
    rw [none]
    constructor
    · rintro ⟨⟩
    · rintro ⟨⟨⟩, -⟩

/-- Of a queue, a buffer and an event that are all not there, the buffer is told. -/
theorem call_eq_error_missingBuffer :
    ComputeApi.call (.enqueueMigrate ⟨9⟩ [⟨9⟩] .toDevice [⟨9⟩]) outfitted =
      .error .invalidMemObject outfitted :=
  (call_eq_error_iff outfitted rfl).2 ⟨rfl, rfl⟩

/-! ### Histories -/

/-- A request with an objection to it that holds changes nothing, also if it is to start a queue. -/
theorem next_of_refusal {s : Simulator} {r : Request} {status : Status}
    (refused : s.refusal? r = some status) : s.next r = s := by
  have missing {queue : QueueHandle} (refused : s.refusal? (.flush queue) = some status) :
      s.queues.get? queue = none := by
    cases found : s.queues.get? queue with
    | none => rfl
    | some q =>
      rw [refusal?, objections, found] at refused
      contradiction
  cases starts : r.starts? with
  | none =>
    have verdict := verdict_call s starts
    rw [next]
    generalize ComputeApi.call r s = outcome at verdict
    cases verdict with
    | refused first => rfl
    | answered answer t none =>
      rw [refusal?, none] at refused
      contradiction
  | some queue =>
    cases r with
    | flush queue => simp only [next, ComputeApi.call, runPending_eq, missing refused, stateOf_error]
    | finish queue =>
      simp only [next, ComputeApi.call, finish_eq, runPending_eq, missing refused, stateOf_error]
    | _ => contradiction

/-- The requests of a history to which no objection holds when they are made. -/
def unrefused (s : Simulator) : List Request → List Request
  | [] => []
  | r :: rest =>
    if (s.refusal? r).isSome then s.unrefused rest else r :: (s.next r).unrefused rest

/-- A history comes to the same without its refused requests. -/
theorem nexts_unrefused (s : Simulator) (requests : List Request) :
    s.nexts (s.unrefused requests) = s.nexts requests := by
  induction requests generalizing s with
  | nil => rfl
  | cons r rest ih =>
    rw [unrefused]
    cases refused : s.refusal? r with
    | none =>
      rw [Option.isSome_none, if_neg Bool.false_ne_true]
      exact ih (s.next r)
    | some status =>
      rw [Option.isSome_some, if_pos rfl, ih s, nexts, nexts, List.foldl_cons,
        next_of_refusal refused]

end Simulator

end FpgaHost
