import FpgaHost.Device.Basic

/-!
# Requests

What a host can ask of an accelerator platform. A `Request` names an operation with its arguments,
and `Request.Answer` is the type of what it answers when it succeeds. Histories of a backend are
lists of requests.
-/

namespace FpgaHost

/-- A call of the device interface. -/
inductive Request where
  /-- The platforms, in the order in which they are tried. -/
  | platforms
  /-- The vendor of a platform. -/
  | platformName (platform : PlatformId)
  /-- The accelerators of a platform. -/
  | acceleratorDevices (platform : PlatformId)
  /-- The name of a device. -/
  | deviceName (device : DeviceId)
  /-- Takes a device into use. -/
  | createContext (device : DeviceId)
  /-- Gives a device back. -/
  | releaseContext (context : ContextHandle)
  /-- Makes a queue for commands. -/
  | createQueue (context : ContextHandle) (device : DeviceId) (properties : QueueProperties)
  /-- Makes a program from an image. -/
  | buildProgram (context : ContextHandle) (devices : List DeviceId) (image : Bytes)
  /-- Makes a kernel from a program. -/
  | createKernel (program : ProgramHandle) (name : String)
  /-- Binds an argument of a kernel. -/
  | setKernelArg (kernel : KernelHandle) (index : Nat) (value : KernelArg)
  /-- Allocates a buffer, from host data if there are any. -/
  | createBuffer (context : ContextHandle) (flags : MemFlags) (size : Nat) (host : Option Bytes)
    (ext : Option ExtPtr)
  /-- Frees a buffer. -/
  | releaseBuffer (buffer : BufferHandle)
  /-- The host memory of a buffer. -/
  | hostMemory (buffer : BufferHandle)
  /-- Writes over the host memory of a buffer from an offset on; answers its length. -/
  | overwriteHost (buffer : BufferHandle) (offset : Nat) (data : Bytes)
  /-- Submits a copy between host and device memory. -/
  | enqueueMigrate (queue : QueueHandle) (buffers : List BufferHandle) (direction : Direction)
    (wait : List EventHandle)
  /-- Submits a run of a kernel. -/
  | enqueueTask (queue : QueueHandle) (kernel : KernelHandle) (wait : List EventHandle)
  /-- An instant of a command. -/
  | profilingInfo (event : EventHandle) (instant : Instant)
  /-- Gives an event back. -/
  | releaseEvent (event : EventHandle)
  /-- Starts the commands of a queue. -/
  | flush (queue : QueueHandle)
  /-- Waits for the commands of a queue. -/
  | finish (queue : QueueHandle)
  /-- Attaches a stream to an argument of a kernel. -/
  | createStream (device : DeviceId) (direction : StreamDirection) (kernel : KernelHandle)
    (index : Nat)
  deriving DecidableEq, Repr

/-- What a call answers when it succeeds. -/
@[reducible] def Request.Answer : Request → Type
  | .platforms => List PlatformId
  | .platformName _ => String
  | .acceleratorDevices _ => List DeviceId
  | .deviceName _ => String
  | .createContext _ => ContextHandle
  | .releaseContext _ => Unit
  | .createQueue _ _ _ => QueueHandle
  | .buildProgram _ _ _ => ProgramBuild
  | .createKernel _ _ => KernelHandle
  | .setKernelArg _ _ _ => Unit
  | .createBuffer _ _ _ _ _ => BufferHandle
  | .releaseBuffer _ => Unit
  | .hostMemory _ => Bytes
  | .overwriteHost _ _ _ => Nat
  | .enqueueMigrate _ _ _ _ => EventHandle
  | .enqueueTask _ _ _ => EventHandle
  | .profilingInfo _ _ => Nat
  | .releaseEvent _ => Unit
  | .flush _ => Unit
  | .finish _ => Unit
  | .createStream _ _ _ _ => StreamHandle

/-! ### Names of the operations -/

/-- An operation of the interface. -/
inductive Method where
  | platforms
  | platformName
  | acceleratorDevices
  | deviceName
  | createContext
  | releaseContext
  | createQueue
  | buildProgram
  | createKernel
  | setKernelArg
  | createBuffer
  | releaseBuffer
  | hostMemory
  | overwriteHost
  | enqueueMigrate
  | enqueueTask
  | profilingInfo
  | releaseEvent
  | flush
  | finish
  | createStream
  deriving DecidableEq, Repr

namespace Method

/-- All operations. -/
def all : List Method :=
  [.platforms, .platformName, .acceleratorDevices, .deviceName, .createContext, .releaseContext,
    .createQueue, .buildProgram, .createKernel, .setKernelArg, .createBuffer, .releaseBuffer,
    .hostMemory, .overwriteHost, .enqueueMigrate, .enqueueTask, .profilingInfo, .releaseEvent,
    .flush, .finish, .createStream]

/-- The name of an operation in messages and traces. -/
def name : Method → String
  | .platforms => "platforms"
  | .platformName => "platform_name"
  | .acceleratorDevices => "accelerator_devices"
  | .deviceName => "device_name"
  | .createContext => "create_context"
  | .releaseContext => "release_context"
  | .createQueue => "create_queue"
  | .buildProgram => "build_program"
  | .createKernel => "create_kernel"
  | .setKernelArg => "set_kernel_arg"
  | .createBuffer => "create_buffer"
  | .releaseBuffer => "release_buffer"
  | .hostMemory => "host_memory"
  | .overwriteHost => "host_memory_mut"
  | .enqueueMigrate => "enqueue_migrate"
  | .enqueueTask => "enqueue_task"
  | .profilingInfo => "profiling_info"
  | .releaseEvent => "release_event"
  | .flush => "flush"
  | .finish => "finish"
  | .createStream => "create_stream"

/-- The operation that a name stands for. -/
def ofName? (name : String) : Option Method := all.find? (·.name = name)

end Method

/-- The operation of a request. -/
def Request.method : Request → Method
  | .platforms => .platforms
  | .platformName _ => .platformName
  | .acceleratorDevices _ => .acceleratorDevices
  | .deviceName _ => .deviceName
  | .createContext _ => .createContext
  | .releaseContext _ => .releaseContext
  | .createQueue _ _ _ => .createQueue
  | .buildProgram _ _ _ => .buildProgram
  | .createKernel _ _ => .createKernel
  | .setKernelArg _ _ _ => .setKernelArg
  | .createBuffer _ _ _ _ _ => .createBuffer
  | .releaseBuffer _ => .releaseBuffer
  | .hostMemory _ => .hostMemory
  | .overwriteHost _ _ _ => .overwriteHost
  | .enqueueMigrate _ _ _ _ => .enqueueMigrate
  | .enqueueTask _ _ _ => .enqueueTask
  | .profilingInfo _ _ => .profilingInfo
  | .releaseEvent _ => .releaseEvent
  | .flush _ => .flush
  | .finish _ => .finish
  | .createStream _ _ _ _ => .createStream

end FpgaHost
