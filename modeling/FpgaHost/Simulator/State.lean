import FpgaHost.Simulator.HostKernel

/-!
# The state of the simulator

The simulator has platforms of named devices, a clock, and a table per kind of thing it hands out.
All handles but those of platforms and devices come from one counter, so no number is handed out
twice.

A command that is submitted waits in its queue; its event has a record from then on. The record
outlives the release of the event as long as a queued command needs it, and `collectReleased` is the
rule: a released record goes when it is neither pending nor awaited by a pending command.

Time is counted in nanoseconds, in words of 64 bits. The times of the simulator are natural numbers,
and no sum of times is cut to a word: the simulator is to be trusted with times as long as they are
words, and what is proved of times is proved for states in which they are (`Simulator.InWords`).
-/

namespace FpgaHost

/-- A device of the simulator. -/
structure SimulatedDevice where
  /-- Its name. -/
  name : String
  /-- Whether it is in use elsewhere. -/
  busy : Bool := false
  /-- Whether it refuses every image. -/
  rejectsBinaries : Bool := false
  deriving DecidableEq, Repr

/-- A platform: a vendor and its devices. -/
structure Platform where
  /-- The vendor. -/
  name : String
  /-- The devices. -/
  devices : List DeviceId
  deriving DecidableEq, Repr

/-- A command of a queue. -/
inductive Command where
  /-- Copies between the memories of buffers. -/
  | migrate (buffers : List BufferHandle) (direction : Direction)
  /-- Runs a kernel. -/
  | task (kernel : KernelHandle)
  deriving DecidableEq, Repr

/-- When a command ran, in nanoseconds. -/
structure Execution where
  /-- When its queue was started. -/
  submitted : Nat
  /-- When it began. -/
  started : Nat
  /-- When it ended. -/
  ended : Nat
  deriving DecidableEq, Repr

/-- What is known of the event of a command. -/
structure EventRecord where
  /-- The command. -/
  command : Command
  /-- The events it waits for. -/
  wait : List EventHandle
  /-- Whether its times may be asked for. -/
  profiling : Bool
  /-- When it was put into its queue. -/
  queued : Nat
  /-- When it ran, once it has. -/
  execution : Option Execution := none
  /-- Whether the event is given back. -/
  released : Bool := false
  deriving DecidableEq, Repr

/-- An instant of a command, once it is known. -/
def EventRecord.instant? (record : EventRecord) : Instant → Option Nat
  | .queued => some record.queued
  | .submitted => record.execution.map (·.submitted)
  | .started => record.execution.map (·.started)
  | .ended => record.execution.map (·.ended)

/-- A queue of commands. -/
structure Queue where
  /-- How it works. -/
  properties : QueueProperties
  /-- The commands that have not run, in order. -/
  pending : List EventHandle := []
  /-- When the last command so far ended. -/
  lastEnd : Nat := 0
  deriving DecidableEq, Repr

/-- A kernel and its bound arguments. -/
structure BoundKernel where
  /-- Its name. -/
  name : String
  /-- What its arguments are bound to. -/
  args : Table Nat KernelArg := .empty

/-- What a stream is attached to. -/
structure StreamBinding where
  /-- The kernel. -/
  kernel : KernelHandle
  /-- The index of the argument. -/
  index : Nat
  /-- Which way it goes. -/
  direction : StreamDirection
  deriving DecidableEq, Repr

/-- A run of a host kernel. -/
structure KernelRun where
  /-- The kernel. -/
  kernel : String
  /-- What the host kernel noted. -/
  log : List Observation
  deriving DecidableEq, Repr

/-! ### Times of the model -/

/-- How long it takes to put a command into a queue. -/
def enqueueTime : Nat := 100

/-- How long a migration takes before the first byte moves. -/
def migrationSetupTime : Nat := 1000

/-- How long a kernel runs unless said otherwise. -/
def defaultKernelTime : Nat := 10000

/-- How many bytes move in a unit of time unless said otherwise. -/
def defaultBandwidth : Nat := 8

/-- The state of the simulator. -/
structure Simulator where
  /-- The platforms in order. -/
  platforms : List Platform := []
  /-- The devices of all platforms in order. -/
  devices : List SimulatedDevice := []
  /-- The contexts and their devices. -/
  contexts : Table ContextHandle DeviceId := .empty
  /-- The queues. -/
  queues : Table QueueHandle Queue := .empty
  /-- The programs and the names of their kernels. -/
  programs : Table ProgramHandle (List String) := .empty
  /-- The kernels. -/
  kernels : Table KernelHandle BoundKernel := .empty
  /-- The buffers. -/
  buffers : BufferTable := .empty
  /-- The records of events. -/
  events : Table EventHandle EventRecord := .empty
  /-- The streams. -/
  streams : Table StreamHandle StreamBinding := .empty
  /-- The host kernels by name, the latest first. -/
  hostKernels : List (String × HostKernel) := []
  /-- The runs of host kernels so far, in order. -/
  runs : List KernelRun := []
  /-- The simulated time. -/
  clock : Nat := 0
  /-- The number of the next handle. -/
  nextId : Nat := 1
  /-- How long a kernel runs. -/
  kernelTime : Nat := defaultKernelTime
  /-- How many bytes move in a unit of time. -/
  bandwidth : Nat := defaultBandwidth

namespace Simulator

/-! ### Setting up -/

/-- Adds a platform with its devices. -/
def withPlatform (s : Simulator) (vendor : String) (devices : List SimulatedDevice) : Simulator :=
  { s with
    devices := s.devices ++ devices
    platforms := s.platforms ++
      [⟨vendor, (List.range devices.length).map fun i => ⟨s.devices.length + i⟩⟩] }

/-- A simulator with one device. -/
def forDevice (vendor device : String) : Simulator :=
  ({} : Simulator).withPlatform vendor [⟨device, false, false⟩]

/-- Sets how long a kernel runs: some time at least. -/
def withKernelTime (s : Simulator) (time : Nat) : Simulator := { s with kernelTime := max time 1 }

/-- Sets how many bytes move in a unit of time: one at least. -/
def withBandwidth (s : Simulator) (bytes : Nat) : Simulator := { s with bandwidth := max bytes 1 }

/-- Sets what is run in place of the kernels of a name. -/
def withHostKernel (s : Simulator) (name : String) (kernel : HostKernel) : Simulator :=
  { s with hostKernels := (name, kernel) :: s.hostKernels }

/-! ### Looking -/

/-- A device. -/
def device? (s : Simulator) (d : DeviceId) : Option SimulatedDevice := s.devices[d.id]?

/-- A platform. -/
def platform? (s : Simulator) (p : PlatformId) : Option Platform := s.platforms[p.id]?

/-- The record of an event that is not given back. -/
def liveEvent? (s : Simulator) (e : EventHandle) : Option EventRecord :=
  (s.events.get? e).filter (!·.released)

/-- When the command of an event ended, once it has. -/
def ended? (s : Simulator) (e : EventHandle) : Option Nat :=
  ((s.events.get? e).bind (·.execution)).map (·.ended)

/-- How a buffer was allocated. -/
def allocation? (s : Simulator) (b : BufferHandle) : Option Allocation :=
  (s.buffers.get? b).map (·.allocation)

/-- The device memory of a buffer. -/
def deviceMemory? (s : Simulator) (b : BufferHandle) : Option Bytes :=
  (s.buffers.get? b).map (·.device)

/-- The events that the command of an event waits for. -/
def eventDependencies? (s : Simulator) (e : EventHandle) : Option (List EventHandle) :=
  (s.liveEvent? e).map (·.wait)

/-- The command of an event. -/
def eventCommand? (s : Simulator) (e : EventHandle) : Option Command :=
  (s.liveEvent? e).map (·.command)

/-- What a stream is attached to. -/
def streamBinding? (s : Simulator) (h : StreamHandle) : Option StreamBinding := s.streams.get? h

/-- The number of events with a record. -/
def eventCount (s : Simulator) : Nat := s.events.size

/-- The number of buffers. -/
def bufferCount (s : Simulator) : Nat := s.buffers.size

/-- The number of contexts. -/
def contextCount (s : Simulator) : Nat := s.contexts.size

/-! ### Records that are still needed -/

/-- The events that a pending one needs: itself and those that its command waits for. -/
def needs (s : Simulator) (e : EventHandle) : List EventHandle :=
  e :: ((s.events.get? e).map (·.wait)).getD []

/-- The events that are pending or awaited by a pending command. -/
def pinned (s : Simulator) : List EventHandle :=
  s.queues.values.flatMap fun q => q.pending.flatMap s.needs

/-- Drops the records of released events that no pending command needs. -/
def collectReleased (s : Simulator) : Simulator :=
  let pinned := s.pinned
  { s with events := s.events.filter fun e record => !record.released || pinned.contains e }

end Simulator

end FpgaHost
