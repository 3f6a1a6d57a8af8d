import FpgaHost.Image.Argument
import FpgaHost.Placement
import FpgaHost.Session.Attempt
import FpgaHost.Word

/-!
# Buffers of a session

A session has at most one buffer per argument. The bank of the argument decides where the buffer is
placed, and its access whether it is moved in the load stage, the store stage or both; the manager
keeps the indices of either stage as a set.

A new buffer takes its place before the one it replaces is freed, so the argument is never without
a buffer, and an allocation that fails changes nothing.
-/

namespace FpgaHost

/-- How a kernel uses a buffer. -/
inductive Access where
  /-- It reads it. -/
  | readOnly
  /-- It writes it. -/
  | writeOnly
  /-- It does both. -/
  | readWrite
  deriving DecidableEq, Repr

namespace Access

/-- The allocation flag of an access. -/
def flags : Access → MemFlags
  | .readOnly => .readOnly
  | .writeOnly => .writeOnly
  | .readWrite => .readWrite

/-- Each access has a bit of its own. -/
theorem bits_flags (access : Access) :
    access.flags.bits = match access with
      | .readWrite => 0x1
      | .writeOnly => 0x2
      | .readOnly => 0x4 := by
  cases access <;> rfl

/-- Whether a buffer goes to the device in the load stage. -/
def loads : Access → Bool
  | .readOnly | .readWrite => true
  | .writeOnly => false

/-- Whether a buffer comes back in the store stage. -/
def stores : Access → Bool
  | .writeOnly | .readWrite => true
  | .readOnly => false

end Access

/-! ### Where a buffer is placed -/

/-- Where a buffer is placed, and why. -/
inductive BufferPlacement where
  /-- In the bank of its argument. -/
  | bank (tag : String) (flag : UInt32)
  /-- By default: the bank of its argument has no flag. -/
  | unrecognized (tag : String)
  /-- By default: its argument has no bank. -/
  | byDefault
  /-- By default: there is no such argument. -/
  | unplaced
  deriving DecidableEq, Repr

namespace BufferPlacement

/-- Where the buffer of an argument is placed. -/
def ofArgument : Option Argument → BufferPlacement
  | none => .unplaced
  | some a =>
    match a.bankTag with
    | none => .byDefault
    | some tag =>
      match Placement.placementFlag? tag with
      | some flag => .bank tag flag
      | none => .unrecognized tag

/-- The tag of the bank. -/
def tag? : BufferPlacement → Option String
  | .bank tag _ => some tag
  | .unrecognized tag => some tag
  | _ => none

/-- The flag of the bank. -/
def flag? : BufferPlacement → Option UInt32
  | .bank _ flag => some flag
  | _ => none

/-- The channel of high-bandwidth memory. -/
def hbmChannel? (p : BufferPlacement) : Option UInt32 := p.flag?.bind Placement.hbmChannel?

/-- What the allocation says about the place; nothing unless the argument has a bank. -/
def directive? (p : BufferPlacement) (hostAttached : Bool) : Option ExtPtr :=
  p.tag?.map fun _ => { flags := p.flag?.getD 0, hostAttached }

end BufferPlacement

/-! ### Requests and buffers -/

/-- A buffer to be allocated. -/
structure BufferRequest where
  /-- The index of its argument. -/
  index : Nat
  /-- How the kernel uses it. -/
  access : Access
  /-- Its size. -/
  size : Nat
  /-- Its first host memory. -/
  host : Option Bytes := none
  /-- More allocation flags. -/
  flags : MemFlags := .none
  deriving DecidableEq, Repr

namespace BufferRequest

/-- A buffer for some data, of their size. -/
def ofHost (index : Nat) (access : Access) (data : Bytes) : BufferRequest :=
  { index, access, size := data.size, host := some data }

/-- Adds allocation flags. -/
def withFlags (r : BufferRequest) (flags : MemFlags) : BufferRequest :=
  { r with flags := r.flags ||| flags }

end BufferRequest

/-- A buffer of a session. -/
structure ManagedBuffer where
  /-- Its handle. -/
  handle : BufferHandle
  /-- Its size. -/
  size : Nat
  /-- How the kernel uses it. -/
  access : Access
  /-- Where it is placed. -/
  placement : BufferPlacement
  deriving DecidableEq, Repr

/-- A set of argument indices. -/
abbrev IndexSet := Table Nat Unit

/-- The buffers of a session. -/
structure BufferManager where
  /-- Whether every buffer is to use host memory in place. -/
  forceHostPointer : Bool := true
  /-- The buffers by argument index. -/
  buffers : Table Nat ManagedBuffer := .empty
  /-- The indices of the buffers that are loaded. -/
  load : IndexSet := .empty
  /-- The indices of the buffers that are stored. -/
  store : IndexSet := .empty

namespace BufferManager

/-! ### Looking -/

/-- The buffers of a set of indices, in index order. -/
def members (m : BufferManager) (set : IndexSet) : List ManagedBuffer :=
  set.keys.filterMap m.buffers.get?

/-- The handles of the buffers that are loaded. -/
def loadHandles (m : BufferManager) : List BufferHandle := (m.members m.load).map (·.handle)

/-- The handles of the buffers that are stored. -/
def storeHandles (m : BufferManager) : List BufferHandle := (m.members m.store).map (·.handle)

/-- The size of all buffers of a set of indices, as a word. -/
def bytesOf (m : BufferManager) (set : IndexSet) : Nat := sumWords ((m.members set).map (·.size))

/-- The size of all buffers that are loaded. -/
def loadBytes (m : BufferManager) : Nat := m.bytesOf m.load

/-- The size of all buffers that are stored. -/
def storeBytes (m : BufferManager) : Nat := m.bytesOf m.store

/-- The handle of the buffer of an argument. -/
def handle (m : BufferManager) (index : Nat) : Except SessionError BufferHandle :=
  match m.buffers.get? index with
  | none => .error (.unknownArgument index)
  | some b => .ok b.handle

/-! ### Changing -/

/-- The set with an index if a condition holds, without it otherwise. -/
def mark (set : IndexSet) (index : Nat) (condition : Bool) : IndexSet :=
  if condition then set.insert index () else set.erase index

/-- Gives an argument a buffer, instead of the one it had. -/
def install (m : BufferManager) (index : Nat) (b : ManagedBuffer) : BufferManager :=
  { m with
    buffers := m.buffers.insert index b
    load := mark m.load index b.access.loads
    store := mark m.store index b.access.stores }

/-- The manager without buffers. -/
def cleared (m : BufferManager) : BufferManager := { forceHostPointer := m.forceHostPointer }

/-- The flags of an allocation: those of the request, of its access, of the manager and of the
placement. -/
def allocationFlags (m : BufferManager) (request : BufferRequest) (placement : BufferPlacement) :
    MemFlags :=
  request.flags ||| request.access.flags |||
    (if m.forceHostPointer then .useHostPtr else .none) |||
    (if placement.tag?.isSome then .extPtr else .none)

variable {σ : Type} [ComputeApi σ]

/-- Allocates the buffer of an argument and frees the one it replaces. -/
def create (context : ContextHandle) (args : ArgumentTable) (request : BufferRequest) :
    Attempt (BufferManager × σ) BufferHandle := do
  let (m, _) ← get
  let placement := BufferPlacement.ofArgument (args.get? request.index)
  let handle ← Attempt.onSecond (Attempt.ask (.createBuffer context
    (m.allocationFlags request placement) request.size request.host
    (placement.directive? request.host.isSome)))
  modify fun (m, s) =>
    (m.install request.index { handle, size := request.size, access := request.access, placement },
      s)
  match m.buffers.get? request.index with
  | none => return handle
  | some replaced =>
    Attempt.onSecond (Attempt.ask (.releaseBuffer replaced.handle))
    return handle

/-- Frees buffers and answers how many of them could be freed. -/
def release : List ManagedBuffer → Attempt σ Nat
  | [] => return 0
  | b :: rest => do
    match ← Attempt.tryCall (.releaseBuffer b.handle) with
    | .ok _ => return (← release rest) + 1
    | .error _ => release rest

/-- Frees all buffers and answers how many of them could be freed. The manager forgets them all. -/
def releaseAll : Attempt (BufferManager × σ) Nat := do
  let (m, _) ← get
  modify fun (m, s) => (m.cleared, s)
  Attempt.onSecond (release m.buffers.values)

end BufferManager

end FpgaHost
