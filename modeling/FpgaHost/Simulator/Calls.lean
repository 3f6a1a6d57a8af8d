import FpgaHost.Image.Basic
import FpgaHost.Simulator.Execution

/-!
# The simulator as a backend

What each call does. Every call checks all that it refuses before it changes anything; only starting
a queue can fail half way, since the commands of the queue run one after the other.

A context owns nothing: giving it back leaves its queues, programs, kernels and buffers as they are,
and only the calls that name the context itself fail from then on.
-/

namespace FpgaHost.Simulator

open Call

/-! ### Platforms and devices -/

/-- A device that must be there. -/
def requireDevice (device : DeviceId) : Call Simulator SimulatedDevice := do
  require ((← get).device? device) .deviceNotFound

/-- A platform that must be there. -/
def requirePlatform (platform : PlatformId) : Call Simulator Platform := do
  require ((← get).platform? platform) .invalidValue

/-- The devices of a platform; a platform without devices has none to offer. -/
def acceleratorDevices (platform : PlatformId) : Call Simulator (List DeviceId) := do
  let p ← requirePlatform platform
  refuseIf p.devices.isEmpty .deviceNotFound
  return p.devices

/-! ### Contexts and queues -/

/-- Takes a device into use unless it is in use elsewhere. -/
def createContext (device : DeviceId) : Call Simulator ContextHandle := do
  let d ← requireDevice device
  refuseIf d.busy .deviceNotAvailable
  let context ← fresh
  modify fun s => { s with contexts := s.contexts.insert context device }
  return context

/-- Gives a device back. -/
def releaseContext (context : ContextHandle) : Call Simulator Unit := do
  refuseIf (!(← get).contexts.contains context) .invalidValue
  modify fun s => { s with contexts := s.contexts.erase context }

/-- Makes a queue for the device of a context. -/
def createQueue (context : ContextHandle) (device : DeviceId) (properties : QueueProperties) :
    Call Simulator QueueHandle := do
  refuseIf ((← get).contexts.get? context != some device) .invalidValue
  let queue ← fresh
  modify fun s => { s with queues := s.queues.insert queue { properties } }
  return queue

/-! ### Programs and kernels -/

/-- How building an image goes on a device: the image must be readable and made for a device of
that name, and the device must accept it. -/
def buildStatus (s : Simulator) (image : Except ImageError Image) (device : DeviceId) : Status :=
  match s.device? device, image with
  | none, _ => .deviceNotFound
  | some _, .error _ => .invalidBinary
  | some d, .ok i =>
    if d.rejectsBinaries || i.identity.device != d.name then .invalidBinary else .success

/-- The kernels of a program built from an image; a program that did not build everywhere has
none. -/
def builtKernels (image : Except ImageError Image) (statuses : List Status) : List String :=
  match image with
  | .error _ => []
  | .ok i => if statuses.all (·.isSuccess) then i.kernels.map (·.name) else []

/-- Builds a program. A build that fails on a device makes a program too. -/
def buildProgram (context : ContextHandle) (devices : List DeviceId) (image : Bytes) :
    Call Simulator ProgramBuild := do
  let s ← get
  refuseIf (!s.contexts.contains context) .invalidValue
  let parsed := Image.ofBytes image
  let deviceStatus := devices.map (s.buildStatus parsed)
  let program ← fresh
  modify fun s =>
    { s with programs := s.programs.insert program (builtKernels parsed deviceStatus) }
  return { program, deviceStatus }

/-- Makes a kernel of a program. -/
def createKernel (program : ProgramHandle) (name : String) : Call Simulator KernelHandle := do
  let kernels ← require ((← get).programs.get? program) .invalidValue
  refuseIf (!kernels.contains name) .invalidKernelName
  let kernel ← fresh
  modify fun s => { s with kernels := s.kernels.insert kernel { name } }
  return kernel

/-- Whether a kernel argument names a buffer that is not there. -/
def isDangling (s : Simulator) : KernelArg → Bool
  | .scalar _ => false
  | .buffer handle => !s.buffers.contains handle

/-- Binds an argument of a kernel, instead of what it was bound to. -/
def setKernelArg (kernel : KernelHandle) (index : Nat) (value : KernelArg) :
    Call Simulator Unit := do
  let s ← get
  refuseIf (s.isDangling value) .invalidMemObject
  refuseIf (!s.kernels.contains kernel) .invalidValue
  set { s with
    kernels := s.kernels.modify kernel fun k => { k with args := k.args.insert index value } }

/-- Attaches a stream to an argument of a kernel. -/
def createStream (device : DeviceId) (direction : StreamDirection) (kernel : KernelHandle)
    (index : Nat) : Call Simulator StreamHandle := do
  let _ ← requireDevice device
  refuseIf (!(← get).kernels.contains kernel) .invalidValue
  let stream ← fresh
  modify fun s => { s with streams := s.streams.insert stream { kernel, index, direction } }
  return stream

/-! ### Buffers -/

/-- A buffer as it is allocated: its host memory holds the first bytes of the host data, or zero
bytes if there are none, and its device memory is zero. -/
def newBuffer (allocation : Allocation) (host : Option Bytes) : Buffer :=
  let blank := Bytes.zeros allocation.size
  { allocation, host := (host.map (·.take allocation.size)).getD blank, device := blank }

/-- Allocates a buffer. Host data must be as long as the buffer at least. -/
def createBuffer (context : ContextHandle) (flags : MemFlags) (size : Nat) (host : Option Bytes)
    (ext : Option ExtPtr) : Call Simulator BufferHandle := do
  refuseIf (!(← get).contexts.contains context) .invalidValue
  refuseIf (size == 0) .invalidValue
  refuseIf (host.any (·.size < size)) .invalidValue
  let buffer ← fresh
  modify fun s => { s with
    buffers := s.buffers.insert buffer (newBuffer { flags, ext, size } host) }
  return buffer

/-- A buffer that must be there. -/
def requireBuffer (buffer : BufferHandle) : Call Simulator Buffer := do
  require ((← get).buffers.get? buffer) .invalidMemObject

/-- Frees a buffer. -/
def releaseBuffer (buffer : BufferHandle) : Call Simulator Unit := do
  let _ ← requireBuffer buffer
  modify fun s => { s with buffers := s.buffers.erase buffer }

/-- The host memory of a buffer. -/
def hostMemory (buffer : BufferHandle) : Call Simulator Bytes :=
  return (← requireBuffer buffer).host

/-- Writes over the host memory of a buffer and answers its length. -/
def overwriteHost (buffer : BufferHandle) (offset : Nat) (data : Bytes) : Call Simulator Nat := do
  let b ← requireBuffer buffer
  modify fun s => { s with
    buffers := s.buffers.modify buffer fun b => { b with host := b.host.overwrite offset data } }
  return b.host.size

/-! ### Commands and events -/

/-- Submits a copy between the memories of buffers. -/
def enqueueMigrate (queue : QueueHandle) (buffers : List BufferHandle) (direction : Direction)
    (wait : List EventHandle) : Call Simulator EventHandle := do
  let s ← get
  refuseIf buffers.isEmpty .invalidValue
  refuseIf (buffers.any fun b => !s.buffers.contains b) .invalidMemObject
  submit queue (.migrate buffers direction) wait

/-- Submits a run of a kernel. -/
def enqueueTask (queue : QueueHandle) (kernel : KernelHandle) (wait : List EventHandle) :
    Call Simulator EventHandle := do
  refuseIf (!(← get).kernels.contains kernel) .invalidValue
  submit queue (.task kernel) wait

/-- An event that must not be given back yet. -/
def requireEvent (event : EventHandle) : Call Simulator EventRecord := do
  require ((← get).liveEvent? event) .invalidEvent

/-- An instant of a command, from a queue that records them. -/
def profilingInfo (event : EventHandle) (instant : Instant) : Call Simulator Nat := do
  let record ← requireEvent event
  refuseIf (!record.profiling) .profilingInfoNotAvailable
  require (record.instant? instant) .profilingInfoNotAvailable

/-- Gives an event back. -/
def releaseEvent (event : EventHandle) : Call Simulator Unit := do
  let _ ← requireEvent event
  modify fun s =>
    { s with events := s.events.modify event fun r => { r with released := true } }.collectReleased

/-- Runs a queue and waits until its last command has ended. -/
def finish (queue : QueueHandle) : Call Simulator Unit := do
  runPending queue
  modify fun s => { s with clock := max s.clock (((s.queues.get? queue).map (·.lastEnd)).getD 0) }

instance : ComputeApi Simulator where
  call
    | .platforms => return (List.range (← get).platforms.length).map fun i => ⟨i⟩
    | .platformName platform => return (← requirePlatform platform).name
    | .acceleratorDevices platform => acceleratorDevices platform
    | .deviceName device => return (← requireDevice device).name
    | .createContext device => createContext device
    | .releaseContext context => releaseContext context
    | .createQueue context device properties => createQueue context device properties
    | .buildProgram context devices image => buildProgram context devices image
    | .createKernel program name => createKernel program name
    | .setKernelArg kernel index value => setKernelArg kernel index value
    | .createBuffer context flags size host ext => createBuffer context flags size host ext
    | .releaseBuffer buffer => releaseBuffer buffer
    | .hostMemory buffer => hostMemory buffer
    | .overwriteHost buffer offset data => overwriteHost buffer offset data
    | .enqueueMigrate queue buffers direction wait => enqueueMigrate queue buffers direction wait
    | .enqueueTask queue kernel wait => enqueueTask queue kernel wait
    | .profilingInfo event instant => profilingInfo event instant
    | .releaseEvent event => releaseEvent event
    | .flush queue => runPending queue
    | .finish queue => finish queue
    | .createStream device direction kernel index => createStream device direction kernel index

end FpgaHost.Simulator
