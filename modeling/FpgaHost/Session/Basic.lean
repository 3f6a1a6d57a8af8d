import FpgaHost.Session.Binding
import FpgaHost.Session.Config
import FpgaHost.Session.Pipeline

/-!
# Sessions

A session runs the kernel of one image on one device. It owns the device while it lasts, one buffer
per argument, and the pipeline that moves the buffers and runs the kernel. `Session.start` begins a
session on a backend and `Session.close` ends it: then every event held, every buffer and the
context are given back, and the backend is left to whoever comes next.
-/

namespace FpgaHost

/-- A session on a backend. -/
structure Session (σ : Type) where
  /-- The backend. -/
  backend : σ
  /-- What it was told. -/
  config : SessionConfig
  /-- The device. -/
  device : BoundDevice
  /-- The name of the kernel. -/
  kernelName : String
  /-- The arguments of the image. -/
  args : ArgumentTable
  /-- The buffers. -/
  buffers : BufferManager
  /-- The pipeline. -/
  pipeline : Pipeline := {}

namespace Session

variable {σ α : Type}

/-! ### Parts of a session -/

/-- Works on the backend. -/
def onBackend (x : Attempt σ α) : Attempt (Session σ) α :=
  Attempt.within (·.backend) (fun backend s => { s with backend }) x

/-- Works on the buffers and the backend. -/
def onBuffers (x : Attempt (BufferManager × σ) α) : Attempt (Session σ) α :=
  Attempt.within (fun s => (s.buffers, s.backend))
    (fun (buffers, backend) s => { s with buffers, backend }) x

/-- Works on the pipeline and the backend. -/
def onPipeline (x : Attempt (Pipeline × σ) α) : Attempt (Session σ) α :=
  Attempt.within (fun s => (s.pipeline, s.backend))
    (fun (pipeline, backend) s => { s with pipeline, backend }) x

variable [ComputeApi σ]

/-! ### Beginning and end -/

/-- Begins a session with an image; a failure leaves the backend behind. -/
def start (image : Image) (config : SessionConfig) (backend : σ) :
    Except (SessionError × σ) (Session σ) :=
  let emulation := config.effectiveEmulation image.emulation
  let binding := BoundDevice.resolve config.queue emulation image.identity image.bytes
    image.kernelName
  match binding backend with
  | .error e backend => .error (e, backend)
  | .ok device backend => .ok {
      backend, config, device
      kernelName := image.kernelName
      args := image.args
      buffers := { forceHostPointer := config.forceHostPointer } }

/-- Begins a session with an image that may have been refused. -/
def startRead (image : Except ImageError Image) (config : SessionConfig) (backend : σ) :
    Except (SessionError × σ) (Session σ) :=
  match image with
  | .error e => .error (.image e, backend)
  | .ok image => start image config backend

/-- Begins a session with the bytes of an image. -/
def startBytes (image : Bytes) : SessionConfig → σ → Except (SessionError × σ) (Session σ) :=
  startRead (Image.ofBytes image)

/-- Begins a session with the image at a path, given what the path leads to. -/
def startFile (path : String) (entry : Option FileEntry) :
    SessionConfig → σ → Except (SessionError × σ) (Session σ) :=
  startRead (Image.ofFile path entry)

/-- Gives everything back; answers the backend. -/
def close (s : Session σ) : σ :=
  let (_, backend) := Pipeline.releaseEvents (s.pipeline, s.backend)
  let (_, backend) := Attempt.after BufferManager.releaseAll (s.buffers, backend)
  Attempt.after (BoundDevice.giveBack s.device.context) backend

/-! ### Arguments -/

/-- Allocates the buffer of an argument, instead of the one it had. -/
def createBuffer (request : BufferRequest) : Attempt (Session σ) BufferHandle := do
  let s ← get
  onBuffers (BufferManager.create s.device.context s.args request)

/-- Binds an argument to a value. -/
def setScalar (index : Nat) (bytes : Octets) : Attempt (Session σ) Unit := do
  let s ← get
  onBackend (Attempt.ask (.setKernelArg s.device.kernel index (.scalar bytes)))

/-- The handle of the buffer of an argument. -/
def bufferHandle (index : Nat) : Attempt (Session σ) BufferHandle := do
  match (← get).buffers.handle index with
  | .error e => throw e
  | .ok handle => return handle

/-- Binds an argument to its buffer. -/
def setBuffer (index : Nat) : Attempt (Session σ) Unit := do
  let handle ← bufferHandle index
  let s ← get
  onBackend (Attempt.ask (.setKernelArg s.device.kernel index (.buffer handle)))

/-- Attaches a stream to an argument. -/
def attachStream (index : Nat) (direction : StreamDirection) :
    Attempt (Session σ) StreamHandle := do
  let d := (← get).device
  onBackend (Attempt.ask (.createStream d.device direction d.kernel index))

/-! ### Stages -/

/-- Submits the load stage. -/
def write : Attempt (Session σ) (Option EventHandle) := do
  let s ← get
  onPipeline (Pipeline.write s.device.queue s.buffers)

/-- Submits the compute stage. -/
def execute : Attempt (Session σ) EventHandle := do
  let s ← get
  onPipeline (Pipeline.execute s.device.queue s.device.kernel)

/-- Submits the store stage. -/
def read : Attempt (Session σ) (Option EventHandle) := do
  let s ← get
  onPipeline (Pipeline.read s.device.queue s.buffers)

/-- Starts all that is submitted and waits for it. -/
def finish : Attempt (Session σ) Unit := do
  let s ← get
  onPipeline (Pipeline.finish s.device.queue)

/-- What can be measured of the latest cycle. -/
def metrics : Attempt (Session σ) CycleMetrics := do
  let s ← get
  onBackend s.pipeline.metrics

/-- Runs a whole cycle and measures it. -/
def invoke : Attempt (Session σ) CycleMetrics := do
  let _ ← write
  let _ ← execute
  let _ ← read
  finish
  metrics

/-- How long a stage took. -/
def elapsed (stage : Stage) : Attempt (Session σ) Nat := do
  let s ← get
  onBackend (s.pipeline.elapsed stage)

/-- How fast a stage moved bytes. -/
def throughput (stage : Stage) : Attempt (Session σ) Float := do
  let s ← get
  onBackend (s.pipeline.throughput stage)

/-! ### Host memory -/

/-- The host memory of the buffer of an argument. -/
def hostData (index : Nat) : Attempt (Session σ) Bytes := do
  let handle ← bufferHandle index
  onBackend (Attempt.ask (.hostMemory handle))

/-- Writes over the host memory of the buffer of an argument and answers its length. A failure is
reported as one of looking at it. -/
def overwriteHost (index offset : Nat) (data : Bytes) : Attempt (Session σ) Nat := do
  let handle ← bufferHandle index
  onBackend (Attempt.askAs .hostMemory (.overwriteHost handle offset data))

end Session

end FpgaHost
