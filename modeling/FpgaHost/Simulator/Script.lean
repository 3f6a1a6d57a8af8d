import FpgaHost.Simulator.HostKernel

/-!
# Scripts

A script is a host kernel given as a list of instructions. Each instruction notes one observation,
so the log of a run has as many entries as the script has instructions.
-/

namespace FpgaHost

/-- The type as which a script reads a scalar. -/
inductive ScalarType where
  | u8
  | i16
  | i32
  | u32
  | u64
  | i64
  /-- A float, noted by its bits. -/
  | f32
  deriving DecidableEq, Repr

namespace ScalarType

/-- The width in bytes. -/
def width : ScalarType → Nat
  | u8 => 1
  | i16 => 2
  | i32 | u32 | f32 => 4
  | u64 | i64 => 8

/-- Whether numbers of the type have a sign. -/
def signed : ScalarType → Bool
  | i16 | i32 | i64 => true
  | _ => false

/-- The number that bytes denote, if they are as many as the type has. -/
def decode? (t : ScalarType) (data : Octets) : Option Int :=
  if data.length = t.width then
    let n := data.toNat
    if t.signed && Nat.pow 2 (8 * t.width - 1) ≤ n then some ((n : Int) - Nat.pow 2 (8 * t.width))
    else some n
  else none

end ScalarType

/-- An instruction of a script. -/
inductive Instruction where
  /-- Notes the name of the kernel. -/
  | name
  /-- Notes a scalar. -/
  | scalar (index : Nat) (type : ScalarType)
  /-- Notes the memory of a buffer. -/
  | read (index : Nat)
  /-- Writes data over a buffer. -/
  | write (index : Nat) (data : Bytes)
  /-- Writes the memory of one buffer over another. -/
  | copy (source target : Nat)
  /-- Adds a scalar to every byte of a buffer. -/
  | increment (index amount : Nat)
  /-- Writes the byte-wise sum of two buffers over a third. -/
  | add (a b count target : Nat)
  deriving DecidableEq, Repr

namespace Instruction

/-- Asks for the device memory of a buffer. -/
def ask (index : Nat) : Interaction (Option Bytes) := .read index .done

/-- Asks for a scalar. -/
def askScalar (type : ScalarType) (index : Nat) : Interaction (Option Int) :=
  .scalar index fun data => .done (data.bind type.decode?)

/-- Writes over a buffer and notes whether there is one. -/
def put (index : Nat) (data : Bytes) : Interaction Observation :=
  .write index data fun written => .done (.flag (some written))

/-- What an instruction does in a kernel of a name. -/
def run (kernel : String) : Instruction → Interaction Observation
  | .name => pure (.text kernel)
  | .scalar index type => return .number (← askScalar type index)
  | .read index => return .memory (← ask index)
  | .write index data => put index data
  | .copy source target => do
    match ← ask source with
    | none => return .flag none
    | some data => put target data
  | .increment index amount => do
    let n := (← askScalar .i32 amount).getD 0
    let summand := UInt8.ofNat (n % 256).toNat
    let data := (← ask index).getD (.zeros 0)
    put index (data.map (· + summand))
  | .add a b count target => do
    let n := (← askScalar .u32 count).getD 0
    match ← ask a, ← ask b with
    | some x, some y => put target ((Bytes.zipWith (· + ·) x y).take n.toNat)
    | _, _ => return .flag none

/-- The host kernel that a script stands for. -/
def script (kernel : String) : List Instruction → HostKernel
  | [] => pure []
  | i :: rest => do
    let o ← i.run kernel
    let log ← script kernel rest
    return o :: log

end Instruction

end FpgaHost
