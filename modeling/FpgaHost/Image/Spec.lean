import FpgaHost.Image.Header
import FpgaHost.Image.Memory
import FpgaHost.Xml.Value

/-!
# Assembling images

An `ImageSpec` says what an image is to hold; `ImageSpec.build` writes it. The image is the
concatenation of fixed fields, the directory and the payloads, each payload padded to a multiple of
eight bytes, so offsets follow from lengths and no field can run into its neighbour.

`ImageSpec.document` is the manifest of the image as a text. Texts of the specification are written
as attribute values, and arguments get their identifiers by position in their kernel.
-/

namespace FpgaHost

/-- A memory bank of an image to be. -/
structure BankSpec where
  /-- Its name. -/
  tag : String
  /-- Whether the image uses it. -/
  used : Bool := true
  /-- Its technology. -/
  memoryType : MemoryType := .ddr4
  deriving DecidableEq, Repr

/-- An argument of an image to be. -/
structure ArgSpec where
  /-- Its name. -/
  name : String
  /-- Its type. -/
  typeName : String
  /-- Its address qualifier. -/
  qualifier : Option String
  deriving DecidableEq, Repr

/-- A kernel of an image to be. -/
structure KernelSpec where
  /-- Its name. -/
  name : String
  /-- Its arguments in order. -/
  args : List ArgSpec := []
  deriving DecidableEq, Repr

/-- What an image is to hold. -/
structure ImageSpec where
  /-- The device it is for. -/
  device : String
  /-- The kernels in order. -/
  kernels : List KernelSpec
  /-- The code of the mode. -/
  mode : UInt16 := ImageMode.flat.code
  /-- The target in the manifest. -/
  target : String := "bitstream"
  /-- Whether arguments carry identifiers. -/
  explicitIds : Bool := true
  /-- Whether there is a manifest. -/
  withManifest : Bool := true
  /-- A text to be the manifest instead of the one the specification gives. -/
  manifestText : Option String := none
  /-- The memory banks in order. -/
  banks : List BankSpec := []
  /-- The connections in order: an argument index and a bank index. -/
  connections : List (Int32 × Int32) := []
  deriving DecidableEq, Repr

namespace ImageSpec

/-- An image for a device with one kernel. -/
def ofKernel (device kernel : String) : ImageSpec := { device, kernels := [⟨kernel, []⟩] }

/-! ### Saying what the image is to hold -/

/-- Sets the mode. -/
def withMode (s : ImageSpec) (mode : ImageMode) : ImageSpec := { s with mode := mode.code }

/-- Sets the code of the mode, whether it has a meaning or not. -/
def withModeCode (s : ImageSpec) (code : UInt16) : ImageSpec := { s with mode := code }

/-- Sets the target. -/
def withTarget (s : ImageSpec) (target : String) : ImageSpec := { s with target }

/-- Adds a kernel; the arguments that follow are its own. -/
def kernel (s : ImageSpec) (name : String) : ImageSpec :=
  { s with kernels := s.kernels ++ [⟨name, []⟩] }

/-- Adds an argument to the last kernel. -/
def arg (s : ImageSpec) (a : ArgSpec) : ImageSpec :=
  { s with kernels := s.kernels.dropLast ++
      (s.kernels.getLast?.map fun k => { k with args := k.args ++ [a] }).toList }

/-- Adds a scalar argument. -/
def scalar (s : ImageSpec) (name typeName : String) : ImageSpec := s.arg ⟨name, typeName, some "0"⟩

/-- Adds a buffer argument. -/
def buffer (s : ImageSpec) (name typeName : String) : ImageSpec := s.arg ⟨name, typeName, some "1"⟩

/-- Adds a stream argument. -/
def stream (s : ImageSpec) (name typeName : String) : ImageSpec := s.arg ⟨name, typeName, some "4"⟩

/-- Leaves the identifiers of arguments to their positions. -/
def positionalIds (s : ImageSpec) : ImageSpec := { s with explicitIds := false }

/-- Leaves the manifest out. -/
def withoutManifest (s : ImageSpec) : ImageSpec := { s with withManifest := false }

/-- Gives the manifest as a text. -/
def withManifestText (s : ImageSpec) (text : String) : ImageSpec :=
  { s with manifestText := some text }

/-- Adds a bank. -/
def bank (s : ImageSpec) (b : BankSpec) : ImageSpec := { s with banks := s.banks ++ [b] }

/-- Connects an argument to a bank. -/
def connect (s : ImageSpec) (argument bank : Int32) : ImageSpec :=
  { s with connections := s.connections ++ [(argument, bank)] }

/-! ### The manifest -/

/-- An attribute: a space, its name and its value in quotes. -/
def attributeText (name value : String) : List Char :=
  ' ' :: name.toList ++ ['=', '"'] ++ Xml.escape value.toList ++ ['"']

/-- The element of an argument. -/
def argumentText (explicitIds : Bool) (position : Nat) (a : ArgSpec) : List Char :=
  "          <arg".toList ++ attributeText "name" a.name ++
    (match a.qualifier with
      | some q => attributeText "addressQualifier" q
      | none => []) ++
    (if explicitIds then attributeText "id" (toString position) else []) ++
    attributeText "type" a.typeName ++ "/>\n".toList

/-- The elements of arguments, the first of them at a position. -/
def argumentTexts (explicitIds : Bool) (position : Nat) : List ArgSpec → List Char
  | [] => []
  | a :: rest =>
    argumentText explicitIds position a ++ argumentTexts explicitIds (position + 1) rest

/-- The element of a kernel. -/
def kernelText (explicitIds : Bool) (k : KernelSpec) : List Char :=
  "        <kernel".toList ++ attributeText "name" k.name ++ " language=\"c\">\n".toList ++
    argumentTexts explicitIds 0 k.args ++ "        </kernel>\n".toList

/-- The manifest that a specification gives. -/
def generatedChars (s : ImageSpec) : List Char :=
  "<?xml version=\"1.0\" encoding=\"UTF-8\"?>\n<project name=\"frt\">\n".toList ++
    "  <platform vendor=\"xilinx\">\n    <device".toList ++ attributeText "name" s.device ++
    ">\n      <core name=\"OCL_REGION_0\"".toList ++ attributeText "target" s.target ++
    " type=\"clc_region\">\n".toList ++
    s.kernels.flatMap (kernelText s.explicitIds) ++
    "      </core>\n    </device>\n  </platform>\n</project>\n".toList

/-- The manifest of the image as a text. -/
def document (s : ImageSpec) : String :=
  match s.manifestText with
  | some text => text
  | none => String.ofList s.generatedChars

/-! ### The payloads -/

/-- The size of every bank, in kilobytes. -/
def bankSizeKb : Nat := 16 * 1024 * 1024

/-- The record of the bank at a position. Banks lie side by side. -/
def bankRecord (position : Nat) (b : BankSpec) : Octets :=
  [b.memoryType.code, if b.used then 1 else 0] ++ Octets.zeros 6 ++ Octets.ofNat 8 bankSizeKb ++
    Octets.ofNat 8 (position * (1024 * bankSizeKb)) ++
    Octets.terminated Layout.Topology.tagSize (Utf8.encode b.tag)

/-- The records of banks, the first of them at a position. -/
def bankRecords (position : Nat) : List BankSpec → Octets
  | [] => []
  | b :: rest => bankRecord position b ++ bankRecords (position + 1) rest

/-- The memory topology. -/
def topologyPayload (s : ImageSpec) : Octets :=
  Octets.ofNat 4 s.banks.length ++ Octets.zeros 4 ++ bankRecords 0 s.banks

/-- The record of a connection; the kernel is always the first one. -/
def connectionRecord (c : Int32 × Int32) : Octets :=
  Octets.ofInt32 c.1 ++ Octets.zeros 4 ++ Octets.ofInt32 c.2

/-- The connectivity table. -/
def connectivityPayload (s : ImageSpec) : Octets :=
  Octets.ofNat 4 s.connections.length ++ s.connections.flatMap connectionRecord

/-- A section to be written. -/
structure Payload where
  /-- What it is. -/
  kind : SectionKind
  /-- Its name. -/
  name : String
  /-- Its bytes. -/
  data : Octets
  deriving DecidableEq, Repr

/-- The sections of the image in directory order. The two tables are left out when empty. -/
def payloads (s : ImageSpec) : List Payload :=
  (if s.withManifest then
    [⟨.embeddedMetadata, "metadata", Utf8.encode s.document ++ [0]⟩] else []) ++
  (if s.banks.isEmpty then [] else [⟨.memTopology, "mem_topology", s.topologyPayload⟩]) ++
  (if s.connections.isEmpty then [] else [⟨.connectivity, "connectivity", s.connectivityPayload⟩])

/-! ### The image -/

/-- Where payloads begin when `records` records precede them; there is room for one at least. -/
def payloadStart (records : Nat) : Nat :=
  Octets.align8 (Layout.directory + max records 1 * Layout.recordSize)

/-- The directory record of a payload that begins at an offset. -/
def directoryRecord (offset : Nat) (p : Payload) : Octets :=
  Octets.ofNat 4 p.kind.code.toNat ++ Octets.terminated Layout.Record.nameSize (Utf8.encode p.name) ++
    Octets.zeros 4 ++ Octets.ofNat 8 offset ++ Octets.ofNat 8 p.data.length

/-- The records of payloads, the first of which begins at an offset. -/
def directoryRecords (offset : Nat) : List Payload → Octets
  | [] => []
  | p :: rest =>
    directoryRecord offset p ++ directoryRecords (offset + Octets.align8 p.data.length) rest

/-- The payloads one after the other, each padded. -/
def payloadBytes (ps : List Payload) : Octets := ps.flatMap fun p => p.data.padded8

/-- The header of an image of `length` bytes with a number of sections. -/
def headerBytes (s : ImageSpec) (length sections : Nat) : Octets :=
  Octets.ofNat 8 length ++ Octets.zeros 16 ++ Octets.ofNat 2 0 ++ [2, 1] ++
    Octets.ofNat 2 s.mode.toNat ++ Octets.zeros 18 ++
    Octets.terminated Layout.Header.platformNameSize (Utf8.encode s.device) ++ Octets.zeros 32 ++
    Octets.ofNat 4 sections ++ Octets.zeros 4

/-- What precedes the header: the magic bytes and a signature length of minus one. -/
def preamble : Octets :=
  Layout.magic ++ Octets.ofInt32 (-1) ++ Octets.zeros (Layout.header - Layout.signatureLength - 4)

/-- The bytes of the image. -/
def octets (s : ImageSpec) : Octets :=
  let ps := s.payloads
  let start := payloadStart ps.length
  let body := payloadBytes ps
  let front := directoryRecords start ps
  preamble ++ s.headerBytes (start + body.length) ps.length ++ front ++
    Octets.zeros (start - Layout.directory - front.length) ++ body

/-- The image. -/
def build (s : ImageSpec) : Bytes := .ofList s.octets

end ImageSpec

end FpgaHost
