import FpgaHost.Device.Basic

/-!
# Host kernels

A host kernel is what the simulator runs in place of a kernel. It sees the bound arguments only
through three questions, and this is what its type says: an `Interaction` is either done or asks one
and goes on with the answer. It reads the bytes of a scalar, reads the device memory of a bound
buffer, and writes over it from its start, never past its end. Host memory is out of its reach.
-/

namespace FpgaHost

/-- What a host kernel notes in its log. -/
inductive Observation where
  /-- A text. -/
  | text (s : String)
  /-- A number, or none. -/
  | number (n : Option Int)
  /-- Bytes, or none. -/
  | memory (data : Option Bytes)
  /-- Whether something was done, or that it was not tried. -/
  | flag (b : Option Bool)
  deriving DecidableEq, Repr

/-- A computation over the bound arguments of a kernel. -/
inductive Interaction (α : Type) where
  /-- It is over. -/
  | done (a : α)
  /-- Asks for the bytes of a scalar. -/
  | scalar (index : Nat) (next : Option Octets → Interaction α)
  /-- Asks for the device memory of a buffer. -/
  | read (index : Nat) (next : Option Bytes → Interaction α)
  /-- Writes over the device memory of a buffer; the answer is whether there is one. -/
  | write (index : Nat) (data : Bytes) (next : Bool → Interaction α)

/-- A host kernel ends with its log. -/
abbrev HostKernel := Interaction (List Observation)

/-- What the parameters of an allocation were. -/
structure Allocation where
  /-- The flags. -/
  flags : MemFlags
  /-- Where the buffer is to lie. -/
  ext : Option ExtPtr
  /-- The size. -/
  size : Nat
  deriving DecidableEq, Repr

/-- A buffer of the simulator. -/
structure Buffer where
  /-- How it was allocated. -/
  allocation : Allocation
  /-- Its host memory. -/
  host : Bytes
  /-- Its device memory. -/
  device : Bytes
  deriving DecidableEq, Repr

/-- The buffers of the simulator. -/
abbrev BufferTable := Table BufferHandle Buffer

/-- The buffer with data written over its device memory from the start on. -/
def Buffer.write (b : Buffer) (data : Bytes) : Buffer :=
  { b with device := b.device.overwrite 0 data }

/-- The buffer after a copy between its two memories. -/
def Buffer.migrate (b : Buffer) : Direction → Buffer
  | .toDevice => { b with device := b.host }
  | .toHost => { b with host := b.device }

/-- The bytes of a scalar argument. -/
def scalarAt (args : Table Nat KernelArg) (index : Nat) : Option Octets :=
  match args.get? index with
  | some (.scalar bytes) => some bytes
  | _ => none

/-- The buffer that an argument is bound to, if it still exists. -/
def bufferAt (args : Table Nat KernelArg) (buffers : BufferTable) (index : Nat) :
    Option (BufferHandle × Buffer) :=
  match args.get? index with
  | some (.buffer handle) => (buffers.get? handle).map fun b => (handle, b)
  | _ => none

namespace Interaction

variable {α β : Type}

/-- Runs an interaction on bound arguments; answers its result and the buffers it leaves. -/
def run (args : Table Nat KernelArg) : Interaction α → BufferTable → α × BufferTable
  | done a, buffers => (a, buffers)
  | scalar index next, buffers => (next (scalarAt args index)).run args buffers
  | read index next, buffers =>
    (next ((bufferAt args buffers index).map (·.2.device))).run args buffers
  | write index data next, buffers =>
    match bufferAt args buffers index with
    | none => (next false).run args buffers
    | some (handle, _) => (next true).run args (buffers.modify handle (·.write data))

/-- Goes on with the result of an interaction. -/
def andThen (next : α → Interaction β) : Interaction α → Interaction β
  | done a => next a
  | scalar index k => scalar index fun answer => andThen next (k answer)
  | read index k => read index fun answer => andThen next (k answer)
  | write index data k => write index data fun answer => andThen next (k answer)

instance : Monad Interaction where
  pure := done
  bind x f := andThen f x

end Interaction

end FpgaHost
