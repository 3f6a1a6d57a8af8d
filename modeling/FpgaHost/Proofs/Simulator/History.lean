import FpgaHost.Proofs.Simulator.Execution

/-!
# What one request does

A request is made of the simulator whatever became of those before it, so what it does is said of
both its outcomes at once. Most requests are quiet: they leave every queue as it is. Of the others a
submission is refused or puts one command into one queue, and a start carries out all that is
pending on a queue or fails half way and drops the rest.

Main statement: `does_next`, which lists what a request can do to the state; what every request
keeps is proved by going through that list.
-/

namespace FpgaHost

namespace Request

/-- The queue that a request starts. -/
def starts? : Request → Option QueueHandle
  | .flush queue => some queue
  | .finish queue => some queue
  | _ => none

/-- Whether a request leaves all queues as they are. -/
def isQuiet : Request → Bool
  | .createQueue _ _ _ => false
  | .enqueueMigrate _ _ _ _ => false
  | .enqueueTask _ _ _ => false
  | .flush _ => false
  | .finish _ => false
  | _ => true

theorem queue?_of_isQuiet {r : Request} (quiet : r.isQuiet) : r.queue? = none := by
  cases r <;> first | rfl | contradiction

end Request

namespace Simulator

open Call Steps

/-- Nothing was made on the simulator yet; platforms, devices, host kernels and times are any. -/
structure Unused (s : Simulator) : Prop where
  /-- There is no context. -/
  contexts : s.contexts = .empty
  /-- There is no queue. -/
  queues : s.queues = .empty
  /-- There is no program. -/
  programs : s.programs = .empty
  /-- There is no kernel. -/
  kernels : s.kernels = .empty
  /-- There is no buffer. -/
  buffers : s.buffers = .empty
  /-- There is no event. -/
  events : s.events = .empty
  /-- There is no stream. -/
  streams : s.streams = .empty

/-- The state after a request, whether it is answered or refused. -/
def next (s : Simulator) (r : Request) : Simulator := stateOf (ComputeApi.call r s)

/-! ### Submissions -/

/-- What the submission of a command that waits for some events comes to. -/
inductive Submission (s : Simulator) (queue : QueueHandle) (wait : List EventHandle) :
    EStateM.Result Status Simulator EventHandle → Prop
  /-- It is refused. -/
  | refused (status : Status) : Submission s queue wait (.error status s)
  /-- A command is put into a queue that is there. -/
  | accepted {q : Queue} (command : Command) (found : s.queues.get? queue = some q) :
      Submission s queue wait
        (.ok ⟨s.nextId⟩ (s.submitted queue q.properties.profiling command wait))

theorem submission_submit (s : Simulator) (queue : QueueHandle) (command : Command)
    (wait : List EventHandle) : Submission s queue wait (submit queue command wait s) := by
  rw [submit_eq]
  split
  · exact .refused .invalidEvent
  · cases found : s.queues.get? queue with
    | none => exact .refused .invalidValue
    | some q => exact .accepted command found

theorem submission_enqueueMigrate (s : Simulator) (queue : QueueHandle)
    (buffers : List BufferHandle) (direction : Direction) (wait : List EventHandle) :
    Submission s queue wait (enqueueMigrate queue buffers direction wait s) := by
  rw [enqueueMigrate_eq]
  split
  · exact .refused .invalidValue
  · split
    · exact .refused .invalidMemObject
    · exact submission_submit s queue (.migrate buffers direction) wait

theorem submission_enqueueTask (s : Simulator) (queue : QueueHandle) (kernel : KernelHandle)
    (wait : List EventHandle) : Submission s queue wait (enqueueTask queue kernel wait s) := by
  rw [enqueueTask_eq]
  split
  · exact .refused .invalidValue
  · exact submission_submit s queue (.task kernel) wait

/-! ### Starts -/

/-- Of all queues only one differs, and nothing is pending on it. -/
structure Drained (s : Simulator) (queue : QueueHandle) (r : Queue) (u : Simulator) : Prop where
  /-- Nothing is pending. -/
  idle : r.pending = []
  /-- The record of the queue. -/
  here : u.queues.get? queue = some r
  /-- The other queues. -/
  elsewhere : ∀ j, queue ≠ j → u.queues.get? j = s.queues.get? j
  /-- No handle was given out. -/
  nextId : u.nextId = s.nextId

theorem drained_taken {s : Simulator} {queue : QueueHandle} {q : Queue}
    (found : s.queues.get? queue = some q) :
    Drained s queue { q with pending := [] } (s.taken queue) where
  idle := rfl
  here := by rw [taken, Table.get?_modify_self, found, Option.map_some]
  elsewhere j ne := by rw [taken, Table.get?_modify_of_ne _ ne]
  nextId := rfl

namespace Drained

variable {s u v : Simulator} {queue : QueueHandle} {r : Queue}

theorem advanced (drained : Drained s queue r u) (h : Advanced u v) : Drained s queue r v where
  idle := drained.idle
  here := by rw [h.queues, drained.here]
  elsewhere j ne := by rw [h.queues, drained.elsewhere j ne]
  nextId := h.nextId.trans drained.nextId

theorem settled (drained : Drained s queue r u) (lastEnd : Nat) :
    Drained s queue { r with lastEnd } (u.settled queue lastEnd) where
  idle := drained.idle
  here := by
    rw [Simulator.settled, collectReleased, Table.get?_modify_self, drained.here, Option.map_some]
  elsewhere j ne := by
    rw [Simulator.settled, collectReleased, Table.get?_modify_of_ne _ ne, drained.elsewhere j ne]
  nextId := drained.nextId

theorem timed (drained : Drained s queue r u) (clock : Nat) :
    Drained s queue r { u with clock } :=
  ⟨drained.idle, drained.here, drained.elsewhere, drained.nextId⟩

end Drained

/-- What a start of a queue comes to. -/
inductive Start (s : Simulator) (queue : QueueHandle) : EStateM.Result Status Simulator Unit → Prop
  /-- There is no such queue. -/
  | unknown (missing : s.queues.get? queue = none) : Start s queue (.error .invalidValue s)
  /-- All that was pending is carried out. -/
  | succeeded {q : Queue} {u : Simulator} (lastEnd clock : Nat)
      (found : s.queues.get? queue = some q) (advanced : Advanced (s.taken queue) u)
      (all : (s.startOf queue).map (·.1) = q.pending) (later : q.lastEnd ≤ lastEnd)
      (ended : EndedBy lastEnd (s.startOf queue)) :
      Start s queue (.ok () { u.settled queue lastEnd with clock })
  /-- A command cannot run; it and those after it are dropped. -/
  | failed {q : Queue} {u : Simulator} {stuck : EventHandle} {rest : List EventHandle}
      (status : Status) (found : s.queues.get? queue = some q)
      (advanced : Advanced (s.taken queue) u)
      (pending : q.pending = (s.startOf queue).map (·.1) ++ stuck :: rest)
      (recorded : ∀ c ∈ s.startOf queue, ∃ x, c.2 = some x) : Start s queue (.error status u)

theorem start_runPending (s : Simulator) (queue : QueueHandle) :
    Start s queue (runPending queue s) := by
  rw [runPending_eq]
  cases found : s.queues.get? queue with
  | none => exact .unknown found
  | some q =>
    have advanced := advanced_runEvents s.clock (!q.properties.outOfOrder) q.lastEnd q.pending
      (s.taken queue)
    have startOf : s.startOf queue =
        performed s.clock (!q.properties.outOfOrder) q.lastEnd q.pending (s.taken queue) := by
      rw [startOf, found]
    dsimp only
    cases ran : runEvents s.clock (!q.properties.outOfOrder) q.lastEnd q.pending (s.taken queue) with
    | error status u =>
      rw [ran] at advanced
      obtain ⟨done, stuck, rest, pending, performed, recorded⟩ := performed_of_error ran
      rw [← startOf] at performed recorded
      exact .failed status found advanced (performed ▸ pending) recorded
    | ok lastEnd u =>
      rw [ran] at advanced
      obtain ⟨all, later, ended⟩ := performed_of_ok ran
      rw [← startOf] at all ended
      exact .succeeded lastEnd u.clock found advanced all later ended

theorem start_finish (s : Simulator) (queue : QueueHandle) : Start s queue (finish queue s) := by
  have start := start_runPending s queue
  rw [finish_eq]
  generalize runPending queue s = outcome at start
  cases start with
  | unknown missing => exact .unknown missing
  | failed status found advanced pending recorded =>
    exact .failed status found advanced pending recorded
  | succeeded lastEnd clock found advanced all later ended =>
    exact .succeeded lastEnd _ found advanced all later ended

/-- What a request does to the state. -/
inductive Does (s : Simulator) : Request → Simulator → Prop
  /-- It is refused, or only looks. -/
  | nothing (r : Request) : Does s r s
  /-- A device is taken into use. -/
  | createContext (device : DeviceId) : Does s (.createContext device) { s with
      nextId := s.nextId + 1, contexts := s.contexts.insert ⟨s.nextId⟩ device }
  /-- A device is given back. -/
  | releaseContext (context : ContextHandle) :
      Does s (.releaseContext context) { s with contexts := s.contexts.erase context }
  /-- A queue is made. -/
  | createQueue (context : ContextHandle) (device : DeviceId) (properties : QueueProperties) :
      Does s (.createQueue context device properties) { s with
        nextId := s.nextId + 1, queues := s.queues.insert ⟨s.nextId⟩ { properties } }
  /-- A program is made. -/
  | buildProgram (context : ContextHandle) (devices : List DeviceId) (image : Bytes)
      (names : List String) : Does s (.buildProgram context devices image) { s with
        nextId := s.nextId + 1, programs := s.programs.insert ⟨s.nextId⟩ names }
  /-- A kernel is made. -/
  | createKernel (program : ProgramHandle) (name : String) :
      Does s (.createKernel program name) { s with
        nextId := s.nextId + 1, kernels := s.kernels.insert ⟨s.nextId⟩ { name } }
  /-- An argument is bound. -/
  | setKernelArg (kernel : KernelHandle) (index : Nat) (value : KernelArg) :
      Does s (.setKernelArg kernel index value) { s with
        kernels := s.kernels.modify kernel fun k =>
          { k with args := k.args.insert index value } }
  /-- A stream is attached. -/
  | createStream (device : DeviceId) (direction : StreamDirection) (kernel : KernelHandle)
      (index : Nat) : Does s (.createStream device direction kernel index) { s with
        nextId := s.nextId + 1
        streams := s.streams.insert ⟨s.nextId⟩ { kernel, index, direction } }
  /-- A buffer is allocated. -/
  | createBuffer (context : ContextHandle) (flags : MemFlags) (size : Nat) (host : Option Bytes)
      (ext : Option ExtPtr) (long : host.any (·.size < size) = false) :
      Does s (.createBuffer context flags size host ext) (s.allocated { flags, ext, size } host)
  /-- A buffer is freed. -/
  | releaseBuffer (buffer : BufferHandle) :
      Does s (.releaseBuffer buffer) { s with buffers := s.buffers.erase buffer }
  /-- Host memory is written. -/
  | overwriteHost (buffer : BufferHandle) (offset : Nat) (data : Bytes) :
      Does s (.overwriteHost buffer offset data) { s with
        buffers := s.buffers.modify buffer fun b =>
          { b with host := b.host.overwrite offset data } }
  /-- A command is put into a queue. -/
  | submit {r : Request} (loud : r.isQuiet = false) (queue : QueueHandle) (profiling : Bool)
      (command : Command) (wait : List EventHandle) :
      Does s r (s.submitted queue profiling command wait)
  /-- An event is given back. -/
  | releaseEvent (event : EventHandle) : Does s (.releaseEvent event) (s.eventReleased event)
  /-- A queue is started, and some command cannot run. -/
  | stop {r : Request} {u : Simulator} (loud : r.isQuiet = false) (queue : QueueHandle)
      (advanced : Advanced (s.taken queue) u) : Does s r u
  /-- A queue is started, and all commands run. -/
  | start {r : Request} {u : Simulator} (loud : r.isQuiet = false) (queue : QueueHandle)
      (advanced : Advanced (s.taken queue) u) (lastEnd clock : Nat) :
      Does s r { u.settled queue lastEnd with clock }

section
variable {s : Simulator} {r : Request} {queue : QueueHandle} {wait : List EventHandle}

theorem Submission.does {outcome : EStateM.Result Status Simulator EventHandle}
    (submission : Submission s queue wait outcome) (loud : r.isQuiet = false) :
    Does s r (stateOf outcome) := by
  cases submission with
  | refused status => exact .nothing r
  | accepted command found => exact .submit loud queue _ command wait

theorem Start.does {outcome : EStateM.Result Status Simulator Unit}
    (start : Start s queue outcome) (loud : r.isQuiet = false) : Does s r (stateOf outcome) := by
  cases start with
  | unknown missing => exact .nothing r
  | succeeded lastEnd clock found advanced all later ended =>
    exact .start loud queue advanced lastEnd clock
  | failed status found advanced pending recorded => exact .stop loud queue advanced

end

/-- Every request does one of these things, whether it is answered or refused. -/
theorem does_next (s : Simulator) (r : Request) : Does s r (s.next r) := by
  rw [next]
  cases r with
  | enqueueMigrate queue buffers direction wait =>
    exact (submission_enqueueMigrate s queue buffers direction wait).does rfl
  | enqueueTask queue kernel wait => exact (submission_enqueueTask s queue kernel wait).does rfl
  | flush queue => exact (start_runPending s queue).does rfl
  | finish queue => exact (start_finish s queue).does rfl
  | createBuffer context flags size host ext =>
    simp only [ComputeApi.call, createBuffer_eq]
    repeat' split
    · exact .nothing _
    · exact .nothing _
    · exact .nothing _
    next long => exact .createBuffer context flags size host ext (Bool.eq_false_iff.2 long)
  | _ =>
    simp only [ComputeApi.call, get_bind, requirePlatform_bind, requireDevice_bind, pure_apply,
      acceleratorDevices_eq, createContext_eq, releaseContext_eq, createQueue_eq, buildProgram_eq,
      createKernel_eq, setKernelArg_eq, releaseBuffer_eq, hostMemory_eq,
      overwriteHost_eq, profilingInfo_eq, releaseEvent_eq, createStream_eq]
    repeat' split
    all_goals constructor

/-- Handles are numbered upwards. -/
theorem Does.nextId_le {s t : Simulator} {r : Request} (does : Does s r t) :
    s.nextId ≤ t.nextId := by
  cases does with
  | stop loud queue advanced => exact Nat.le_of_eq advanced.nextId.symm
  | start loud queue advanced lastEnd clock => exact Nat.le_of_eq advanced.nextId.symm
  | _ => simp [allocated, submitted, eventReleased, collectReleased]

/-- A quiet request leaves the queues alone, and handles are numbered upwards. -/
theorem quiet_next (s : Simulator) {r : Request} (quiet : r.isQuiet) :
    (s.next r).queues = s.queues ∧ s.nextId ≤ (s.next r).nextId := by
  have does := does_next s r
  refine ⟨?_, does.nextId_le⟩
  generalize s.next r = t at does
  cases does with
  | createQueue context device properties => contradiction
  | submit loud queue profiling command wait => simp [quiet] at loud
  | stop loud queue advanced => simp [quiet] at loud
  | start loud queue advanced lastEnd clock => simp [quiet] at loud
  | _ => rfl

end Simulator

end FpgaHost
