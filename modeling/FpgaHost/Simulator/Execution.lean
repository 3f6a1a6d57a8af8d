import FpgaHost.Device.Api
import FpgaHost.Simulator.State
import FpgaHost.Word

/-!
# Queues at work

Submitting puts a command at the end of its queue and advances the clock a little; nothing runs
before the queue is started. Starting a queue runs its pending commands in order, each from the
moment it was started or, if that is later, from the end of the last event it waits for, and in an
in-order queue of the last command before it.

A command that cannot run stops the queue: what ran before it has had its effect, and nothing of
the pending list is kept.

The bytes that a command copies are added in words (`sumWords`). Times are added as numbers, so the
end of a command is the one of a device only if it is a word.
-/

namespace FpgaHost.Simulator

open Call

/-- A number for a new handle. -/
def fresh {resource : Resource} : Call Simulator (Handle resource) :=
  modifyGet fun s => (⟨s.nextId⟩, { s with nextId := s.nextId + 1 })

/-- Puts a command into a queue. -/
def submit (queue : QueueHandle) (command : Command) (wait : List EventHandle) :
    Call Simulator EventHandle := do
  let s ← get
  refuseIf (wait.any fun e => (s.liveEvent? e).isNone) .invalidEvent
  let q ← require (s.queues.get? queue) .invalidValue
  let event : EventHandle := ⟨s.nextId⟩
  let clock := s.clock + enqueueTime
  set { s with
    clock
    nextId := s.nextId + 1
    events := s.events.insert event
      { command, wait, profiling := q.properties.profiling, queued := clock }
    queues := s.queues.modify queue fun q => { q with pending := q.pending ++ [event] } }
  return event

/-! ### Running one command -/

/-- Copies between the memories of buffers and answers how long that takes; `moved` bytes have been
copied before. -/
def migrate (direction : Direction) : (moved : Nat) → List BufferHandle → Call Simulator Nat
  | moved, [] => do
    return migrationSetupTime + (moved + (← get).bandwidth - 1) / (← get).bandwidth
  | moved, b :: rest => do
    let s ← get
    let buffer ← require (s.buffers.get? b) .invalidMemObject
    set { s with buffers := s.buffers.modify b (·.migrate direction) }
    migrate direction (addWords moved buffer.host.size) rest

/-- Runs a kernel and answers how long that takes. A kernel without a host kernel has no effect. -/
def runKernel (kernel : KernelHandle) : Call Simulator Nat := do
  let s ← get
  let k ← require (s.kernels.get? kernel) .invalidValue
  match s.hostKernels.lookup k.name with
  | none => return s.kernelTime
  | some program =>
    let (log, buffers) := program.run k.args s.buffers
    set { s with buffers, runs := s.runs ++ [(⟨k.name, log⟩ : KernelRun)] }
    return s.kernelTime

/-- Carries a command out and answers how long that takes. -/
def execute : Command → Call Simulator Nat
  | .migrate buffers direction => migrate direction 0 buffers
  | .task kernel => runKernel kernel

/-- The end of the last of some events, at least `start`; none if one of them has not ended. -/
def readyAt (s : Simulator) (start : Nat) (wait : List EventHandle) : Option Nat :=
  wait.foldlM (fun start e => (s.ended? e).map (max start)) start

/-- Runs the command of an event that was started at `submitted`, not before `earliest`, and
answers when it ended. -/
def runEvent (submitted earliest : Nat) (event : EventHandle) : Call Simulator Nat := do
  let s ← get
  let record ← require (s.events.get? event) .invalidEvent
  let ready ← require (s.readyAt submitted record.wait) .invalidEvent
  let started := max ready earliest
  let cost ← execute record.command
  let ended := started + cost
  modify fun s => { s with
    events := s.events.modify event fun r =>
      { r with execution := some ⟨submitted, started, ended⟩ } }
  return ended

/-! ### Running a queue -/

/-- Runs the commands of events in order and answers when the last of them, or of those before
them, ended. -/
def runEvents (submitted : Nat) (inOrder : Bool) :
    (lastEnd : Nat) → List EventHandle → Call Simulator Nat
  | lastEnd, [] => return lastEnd
  | lastEnd, event :: rest => do
    let ended ← runEvent submitted (if inOrder then lastEnd else 0) event
    runEvents submitted inOrder (max lastEnd ended) rest

/-- Runs the pending commands of a queue. -/
def runPending (queue : QueueHandle) : Call Simulator Unit := do
  let s ← get
  let q ← require (s.queues.get? queue) .invalidValue
  set { s with queues := s.queues.modify queue fun q => { q with pending := [] } }
  let lastEnd ← runEvents s.clock (!q.properties.outOfOrder) q.lastEnd q.pending
  modify fun s =>
    { s with queues := s.queues.modify queue fun q => { q with lastEnd } }.collectReleased

end FpgaHost.Simulator
