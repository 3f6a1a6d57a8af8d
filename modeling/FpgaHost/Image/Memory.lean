import FpgaHost.Image.Argument
import FpgaHost.Image.Layout
import FpgaHost.Image.Region
import Std.Data.TreeMap.Basic

/-!
# Memory banks and connections

Two tables of an image place its arguments in memory: the topology lists the banks, the
connectivity table says which argument is connected to which bank. An argument takes the tag of the
bank that its last sound connection names; a connection is sound if the bank exists and is used and
the argument is declared.
-/

namespace FpgaHost

/-- The technology of a bank. -/
inductive MemoryType where
  | ddr3
  | ddr4
  | dram
  | streaming
  | preallocatedGlobal
  | are
  | hbm
  | bram
  | uram
  | streamingConnection
  | host
  /-- A code without a meaning here. -/
  | unknown (code : UInt8)
  deriving DecidableEq, Repr

namespace MemoryType

/-- The technologies that have a code of their own, in the order of their codes. -/
def known : List MemoryType :=
  [.ddr3, .ddr4, .dram, .streaming, .preallocatedGlobal, .are, .hbm, .bram, .uram,
    .streamingConnection, .host]

/-- The technology of a code. -/
def ofCode (code : UInt8) : MemoryType := (known[code.toNat]?).getD (.unknown code)

/-- The code of a technology. -/
def code : MemoryType → UInt8
  | .unknown code => code
  | t => .ofNat (known.idxOf t)

/-- The name of a technology. -/
def name : MemoryType → String
  | .ddr3 => "Ddr3"
  | .ddr4 => "Ddr4"
  | .dram => "Dram"
  | .streaming => "Streaming"
  | .preallocatedGlobal => "PreallocatedGlobal"
  | .are => "Are"
  | .hbm => "Hbm"
  | .bram => "Bram"
  | .uram => "Uram"
  | .streamingConnection => "StreamingConnection"
  | .host => "Host"
  | .unknown code => s!"Unknown({code})"

end MemoryType

/-- A bank of the topology. -/
structure MemoryBank where
  /-- Its position in the table. -/
  index : Nat
  /-- Its technology. -/
  memoryType : MemoryType
  /-- Whether the image uses it. -/
  used : Bool
  /-- Its size in kilobytes. -/
  sizeKb : Nat
  /-- Its first address. -/
  baseAddress : Nat
  /-- Its name. -/
  tag : String
  deriving DecidableEq, Repr

/-- A record of the connectivity table. -/
structure Connection where
  /-- The index of an argument. -/
  argument : Int32
  /-- The position of the kernel in the placement table. -/
  unit : Int32
  /-- The position of a bank in the topology. -/
  bank : Int32
  deriving DecidableEq, Repr

/-! ### The topology -/

/-- Reads the record of the bank at a position. The record as a whole must be there. -/
def MemoryBank.read (r : Region) (index : Nat) : Except ImageError MemoryBank := do
  let start := Layout.Topology.records + index * Layout.Topology.recordSize
  let _ ← r.bytes "mem_data" start Layout.Topology.recordSize
  return {
    index
    memoryType := .ofCode (.ofNat (← r.number "m_type" (start + Layout.Topology.memoryType) 1))
    used := (← r.number "m_used" (start + Layout.Topology.used) 1) != 0
    sizeKb := ← r.number "m_size" (start + Layout.Topology.sizeKb) 8
    baseAddress := ← r.number "m_base_address" (start + Layout.Topology.baseAddress) 8
    tag := ← r.text "m_tag" (start + Layout.Topology.tag) Layout.Topology.tagSize }

/-- The banks of a topology that begins at an offset of the image. -/
def readMemoryBanks (payload : Bytes) (base : Nat) : Except ImageError (List MemoryBank) := do
  let r : Region := ⟨payload, base⟩
  let count ← r.count "mem_topology" Layout.Topology.count
  Region.records (MemoryBank.read r) count

/-! ### The connectivity table -/

/-- Reads the connection at a position, field by field. -/
def Connection.read (r : Region) (index : Nat) : Except ImageError Connection := do
  let start := Layout.Connectivity.records + index * Layout.Connectivity.recordSize
  return {
    argument := ← r.int32 "arg_index" (start + Layout.Connectivity.argument)
    unit := ← r.int32 "m_ip_layout_index" (start + Layout.Connectivity.unit)
    bank := ← r.int32 "mem_data_index" (start + Layout.Connectivity.bank) }

/-- The connections of a table that begins at an offset of the image. -/
def readConnections (payload : Bytes) (base : Nat) : Except ImageError (List Connection) := do
  let r : Region := ⟨payload, base⟩
  let count ← r.count "connectivity" Layout.Connectivity.count
  Region.records (Connection.read r) count

/-! ### Placing arguments -/

/-- A signed index as a position, if it is one. -/
def position? (n : Int32) : Option Nat := if n.toInt < 0 then none else some n.toInt.toNat

/-- What a connection says, if it is sound on its side of the banks: the index of an argument and
the tag of a bank in use. -/
def Connection.tag? (banks : Array MemoryBank) (c : Connection) : Option (Nat × String) := do
  let argument ← position? c.argument
  let bank ← banks[← position? c.bank]?
  if bank.used then some (argument, bank.tag) else none

/-- The tags that connections give to argument indices; a later connection replaces an earlier
one. -/
def connectedTags (banks : Array MemoryBank) (connections : List Connection) :
    Std.TreeMap Nat String :=
  (connections.filterMap (·.tag? banks)).foldl (fun tags (index, tag) => tags.insert index tag) ∅

/-- Connects the declared arguments as the connections say. -/
def assignBankTags (args : ArgumentTable) (banks : Array MemoryBank)
    (connections : List Connection) : ArgumentTable :=
  let tags := connectedTags banks connections
  args.map fun index a =>
    match tags[index]? with
    | some tag => { a with bankTag := some tag }
    | none => a

end FpgaHost
