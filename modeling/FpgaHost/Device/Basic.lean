import FpgaHost.Bytes
import FpgaHost.Table

/-!
# Devices: statuses, handles and parameters

The vocabulary of the device interface. Everything a device hands out is known by a handle whose
type says what it stands for; every call answers a status when it fails.
-/

namespace FpgaHost

/-! ### Statuses -/

/-- The answer of a call; zero is success. -/
structure Status where
  /-- The code. -/
  code : Int32
  deriving DecidableEq, Repr

namespace Status

/-- The call succeeded. -/
def success : Status := ⟨0⟩

/-- There is no such device, or none at all. -/
def deviceNotFound : Status := ⟨-1⟩

/-- The device is in use elsewhere. -/
def deviceNotAvailable : Status := ⟨-2⟩

/-- The device has nothing left to give. -/
def outOfResources : Status := ⟨-5⟩

/-- The times of the command are not known. -/
def profilingInfoNotAvailable : Status := ⟨-7⟩

/-- The program could not be built. -/
def buildProgramFailure : Status := ⟨-11⟩

/-- An argument of the call is out of place. -/
def invalidValue : Status := ⟨-30⟩

/-- There is no such buffer. -/
def invalidMemObject : Status := ⟨-38⟩

/-- The image does not fit the device. -/
def invalidBinary : Status := ⟨-42⟩

/-- The program has no kernel of that name. -/
def invalidKernelName : Status := ⟨-46⟩

/-- There is no such event, or it has not ended. -/
def invalidEvent : Status := ⟨-58⟩

/-- Whether a status is success. -/
def isSuccess (s : Status) : Bool := s.code == 0

/-- The statuses that have a name. -/
def names : List (Int32 × String) :=
  [(0, "CL_SUCCESS"), (-1, "CL_DEVICE_NOT_FOUND"), (-2, "CL_DEVICE_NOT_AVAILABLE"),
    (-5, "CL_OUT_OF_RESOURCES"), (-7, "CL_PROFILING_INFO_NOT_AVAILABLE"),
    (-11, "CL_BUILD_PROGRAM_FAILURE"), (-30, "CL_INVALID_VALUE"), (-38, "CL_INVALID_MEM_OBJECT"),
    (-42, "CL_INVALID_BINARY"), (-46, "CL_INVALID_KERNEL_NAME"), (-58, "CL_INVALID_EVENT")]

/-- The name of a status. -/
def name? (s : Status) : Option String := names.lookup s.code

/-- The text of a status. -/
def text (s : Status) : String :=
  match s.name? with
  | some name => s!"{name} ({s.code.toInt})"
  | none => s!"status {s.code.toInt}"

end Status

/-! ### Handles -/

/-- What a handle stands for. -/
inductive Resource where
  | platform
  | device
  | context
  | queue
  | program
  | kernel
  | buffer
  | event
  | stream
  deriving DecidableEq, Repr

/-- A handle of a resource. -/
structure Handle (resource : Resource) where
  /-- The number that the device knows it by. -/
  id : Nat
  deriving DecidableEq, Repr

instance {r : Resource} : Key (Handle r) where
  rank h := h.id
  eq_of_rank_eq {a b} h := by cases a; cases b; simp_all

abbrev PlatformId := Handle .platform
abbrev DeviceId := Handle .device
abbrev ContextHandle := Handle .context
abbrev QueueHandle := Handle .queue
abbrev ProgramHandle := Handle .program
abbrev KernelHandle := Handle .kernel
abbrev BufferHandle := Handle .buffer
abbrev EventHandle := Handle .event
abbrev StreamHandle := Handle .stream

/-! ### Parameters of calls -/

/-- Flags of an allocation. -/
structure MemFlags where
  /-- The bits. -/
  bits : UInt64
  deriving DecidableEq, Repr

namespace MemFlags

def none : MemFlags := ⟨0⟩
def readWrite : MemFlags := ⟨1⟩
def writeOnly : MemFlags := ⟨2⟩
def readOnly : MemFlags := ⟨4⟩
def useHostPtr : MemFlags := ⟨8⟩
def extPtr : MemFlags := ⟨0x80000000⟩

/-- The flags of both. -/
def union (a b : MemFlags) : MemFlags := ⟨a.bits ||| b.bits⟩

/-- Whether all flags of the second are among those of the first. -/
def contains (a b : MemFlags) : Bool := a.bits &&& b.bits == b.bits

instance : OrOp MemFlags := ⟨union⟩

theorem bits_or (a b : MemFlags) : (a ||| b).bits = a.bits ||| b.bits := rfl

end MemFlags

/-- Where a buffer is to lie. -/
structure ExtPtr where
  /-- The flag of a bank or channel; zero is the default. -/
  flags : UInt32
  /-- Whether the buffer comes with host data. -/
  hostAttached : Bool
  deriving DecidableEq, Repr

/-- How a queue works. -/
structure QueueProperties where
  /-- Whether commands wait only for the events they name. -/
  outOfOrder : Bool := true
  /-- Whether the times of commands are recorded for queries. -/
  profiling : Bool := true
  deriving DecidableEq, Repr

/-- Which way a migration goes. -/
inductive Direction where
  | toDevice
  | toHost
  deriving DecidableEq, Repr

/-- An instant of a command. -/
inductive Instant where
  | queued
  | submitted
  | started
  | ended
  deriving DecidableEq, Repr

/-- The times of the four instants of a command. -/
structure Timestamps where
  /-- When it was put into its queue. -/
  queued : Nat
  /-- When it was handed to the device. -/
  submitted : Nat
  /-- When it began. -/
  started : Nat
  /-- When it ended. -/
  ended : Nat
  deriving DecidableEq, Repr

namespace Timestamps

/-- The time of an instant. -/
def time (t : Timestamps) : Instant → Nat
  | .queued => t.queued
  | .submitted => t.submitted
  | .started => t.started
  | .ended => t.ended

/-- How long the command ran; zero if it seems to have ended before it began. -/
def elapsed (t : Timestamps) : Nat := t.ended - t.started

end Timestamps

/-- Which way a stream goes, seen from the host. -/
inductive StreamDirection where
  | read
  | write
  deriving DecidableEq, Repr

/-- What a kernel argument is bound to. -/
inductive KernelArg where
  /-- A value. -/
  | scalar (bytes : Octets)
  /-- A buffer. -/
  | buffer (handle : BufferHandle)
  deriving DecidableEq, Repr

/-- A program and how its build went, device by device. -/
structure ProgramBuild where
  /-- The program. -/
  program : ProgramHandle
  /-- The status on each device. -/
  deviceStatus : List Status
  deriving DecidableEq, Repr

end FpgaHost
