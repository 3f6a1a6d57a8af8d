import FpgaHost.Image.Spec

/-!
# Filling an image in place

`ImageSpec.build` says what an image is; here it is made the way a writer with one buffer makes it.
A first pass finds where the payloads are to begin and how long the image is. Then a buffer of that
many zero bytes is filled: a record after the other, and in a record a field after the other. A
write is refused if it would leave its field, its record or the buffer, and then there is no image.
-/

namespace FpgaHost

/-! ### Fields -/

/-- A field of a record that is to be written. -/
structure FieldWrite where
  /-- Where the field begins in the record. -/
  field : Nat
  /-- How many bytes the field takes. -/
  width : Nat
  /-- The bytes to be put down from its start on. -/
  content : Octets

/-- Puts down a field of the record that takes `extent` bytes from an offset of the buffer on. -/
def putField? (record extent : Nat) (buffer : Bytes) (w : FieldWrite) : Option Bytes :=
  if w.content.length ≤ w.width ∧ w.field + w.width ≤ extent ∧ record + extent ≤ buffer.size then
    some (buffer.overwrite (record + w.field) (.ofList w.content))
  else none

/-- Puts down the fields of a record, one after the other. -/
def putRecord? (record extent : Nat) (ws : List FieldWrite) (buffer : Bytes) : Option Bytes :=
  ws.foldlM (putField? record extent) buffer

/-- A text for a field of some width: it is cut so that the last byte stays as it is. -/
def FieldWrite.text (field width : Nat) (s : String) : FieldWrite :=
  ⟨field, width, (Utf8.encode s).take (width - 1)⟩

namespace ImageSpec

/-! ### The topology -/

/-- The fields of the record of the bank at a position. -/
def bankFields (position : Nat) (b : BankSpec) : List FieldWrite :=
  [⟨Layout.Topology.memoryType, 1, [b.memoryType.code]⟩,
    ⟨Layout.Topology.used, 1, [if b.used then 1 else 0]⟩,
    ⟨Layout.Topology.sizeKb, 8, Octets.ofNat 8 bankSizeKb⟩,
    ⟨Layout.Topology.baseAddress, 8, Octets.ofNat 8 (position * (1024 * bankSizeKb))⟩,
    .text Layout.Topology.tag Layout.Topology.tagSize b.tag]

/-- The records of banks, each filled in a buffer of its own. -/
def fillBanks? (position : Nat) : List BankSpec → Option Octets
  | [] => some []
  | b :: rest => do
    let record ← putRecord? 0 Layout.Topology.recordSize (bankFields position b)
      (.zeros Layout.Topology.recordSize)
    let records ← fillBanks? (position + 1) rest
    return record.toList ++ records

/-- The memory topology. -/
def fillTopology? (s : ImageSpec) : Option Octets :=
  (fillBanks? 0 s.banks).map fun records =>
    Octets.ofNat 4 s.banks.length ++ Octets.zeros 4 ++ records

/-! ### The image -/

/-- Where payloads are to begin, the first of them at a cursor, and where the last one ends. -/
def offsets (cursor : Nat) : List Payload → List Nat × Nat
  | [] => ([], cursor)
  | p :: rest =>
    let (later, total) := offsets (Octets.align8 (cursor + p.data.length)) rest
    (cursor :: later, total)

/-- The fields in front of the header that are written. -/
def preambleFields : List FieldWrite :=
  [⟨0, Layout.magicSize, Layout.magic⟩, ⟨Layout.signatureLength, 4, Octets.ofInt32 (-1)⟩]

open Layout.Header in
/-- The fields of the header that are written. -/
def headerFields (s : ImageSpec) (total sections : Nat) : List FieldWrite :=
  [⟨length, 8, Octets.ofNat 8 total⟩, ⟨versionPatch, 2, Octets.ofNat 2 0⟩, ⟨versionMajor, 1, [2]⟩,
    ⟨versionMinor, 1, [1]⟩, ⟨Layout.Header.mode, 2, Octets.ofNat 2 s.mode.toNat⟩,
    .text platformName platformNameSize s.device, ⟨sectionCount, 4, Octets.ofNat 4 sections⟩]

open Layout.Record in
/-- The fields of the directory record of a payload that begins at an offset. -/
def recordFields (start : Nat) (p : Payload) : List FieldWrite :=
  [⟨kind, 4, Octets.ofNat 4 p.kind.code.toNat⟩, .text name nameSize p.name,
    ⟨offset, 8, Octets.ofNat 8 start⟩, ⟨size, 8, Octets.ofNat 8 p.data.length⟩]

/-- Puts down the directory record at a position and the payload that it is about. -/
def putSection? (position : Nat) (p : Payload) (offset : Nat) (buffer : Bytes) : Option Bytes := do
  let buffer ← putRecord? (Layout.directory + position * Layout.recordSize) Layout.recordSize
    (recordFields offset p) buffer
  putRecord? offset p.data.length [⟨0, p.data.length, p.data⟩] buffer

/-- Puts down payloads and their directory records, the first record at a position. -/
def fillSections? (position : Nat) (buffer : Bytes) : List (Payload × Nat) → Option Bytes
  | [] => some buffer
  | (p, offset) :: rest => do
    let buffer ← putSection? position p offset buffer
    fillSections? (position + 1) buffer rest

/-- Puts down what stands in front of the directory. -/
def putFront? (s : ImageSpec) (total sections : Nat) (buffer : Bytes) : Option Bytes := do
  let buffer ← putRecord? 0 Layout.header preambleFields buffer
  putRecord? Layout.header Layout.headerSize (s.headerFields total sections) buffer

/-- The image, filled in place. -/
def fill? (s : ImageSpec) : Option Bytes := do
  let ps := s.payloads
  let (starts, total) := offsets (payloadStart ps.length) ps
  let buffer ← s.putFront? total ps.length (.zeros total)
  fillSections? 0 buffer (ps.zip starts)

end ImageSpec

end FpgaHost
