import FpgaHost.Image.Layout
import FpgaHost.Image.Mode
import FpgaHost.Image.Region

/-!
# Header and directory

What stands in front of the payloads: the magic bytes, the header, and one record per section with
its kind and the range of its payload. Ranges are not checked when the directory is read, only when
a payload is asked for; the payload of a kind is that of the first record of the kind, whether its
range is sound or not.
-/

namespace FpgaHost

/-- The header of an image. -/
structure Header where
  /-- The length of the image, as the header has it. -/
  length : Nat
  /-- When the image was built. -/
  timestamp : Nat
  /-- The major version. -/
  major : Nat
  /-- The minor version. -/
  minor : Nat
  /-- The patch version. -/
  patch : Nat
  /-- The mode. -/
  mode : ImageMode
  /-- The name of the platform that the image is for. -/
  platformName : String
  /-- The number of sections. -/
  sectionCount : Nat
  deriving DecidableEq, Repr

/-- A record of the directory. -/
structure SectionRecord where
  /-- What the payload is. -/
  kind : SectionKind
  /-- The name of the section. -/
  name : String
  /-- Where the payload begins. -/
  offset : Nat
  /-- How long the payload is. -/
  size : Nat
  deriving DecidableEq, Repr

/-- Whether the magic bytes are there. -/
def hasMagic (image : Bytes) : Bool :=
  (image.part? 0 Layout.magicSize).any (·.toList == Layout.magic)

namespace Header

/-- The version as a text. -/
def version (h : Header) : String := s!"{h.major}.{h.minor}.{h.patch}"

open Layout.Header in
/-- Reads the header. Its whole extent is checked first, so that a short image has one error. -/
def read (image : Bytes) : Except ImageError Header := do
  let r : Region := ⟨image, 0⟩
  let number (field : String) (offset width : Nat) := r.number field (Layout.header + offset) width
  let _ ← r.bytes "axlf_header" Layout.header Layout.headerSize
  let code := UInt16.ofNat (← number "m_mode" Layout.Header.mode 2)
  match ImageMode.ofCode? code with
  | none => throw (.unknownMode code)
  | some mode =>
    return {
      length := ← number "m_length" Layout.Header.length 8
      timestamp := ← number "m_timeStamp" Layout.Header.timestamp 8
      major := ← number "m_versionMajor" versionMajor 1
      minor := ← number "m_versionMinor" versionMinor 1
      patch := ← number "m_versionPatch" versionPatch 2
      mode
      platformName := ←
        r.text "m_platformVBNV" (Layout.header + Layout.Header.platformName) platformNameSize
      sectionCount := ← number "m_numSections" Layout.Header.sectionCount 4 }

end Header

namespace SectionRecord

open Layout.Record in
/-- Reads the record at a position of the directory. The record as a whole must be there. -/
def read (image : Bytes) (position : Nat) : Except ImageError SectionRecord := do
  let r : Region := ⟨image, 0⟩
  let start := Layout.directory + position * Layout.recordSize
  let _ ← r.bytes "axlf_section_header" start Layout.recordSize
  return {
    kind := .ofCode (.ofNat (← r.number "m_sectionKind" (start + Layout.Record.kind) 4))
    name := ← r.text "m_sectionName" (start + Layout.Record.name) nameSize
    offset := ← r.number "m_sectionOffset" (start + Layout.Record.offset) 8
    size := ← r.number "m_sectionSize" (start + Layout.Record.size) 8 }

end SectionRecord

/-- Reads a directory of `count` records. -/
def readDirectory (image : Bytes) (count : Nat) : Except ImageError (List SectionRecord) :=
  Region.records (SectionRecord.read image) count

/-- The payload of the first record of a kind and where it begins; none if there is no record. -/
def findSection (image : Bytes) (directory : List SectionRecord) (kind : SectionKind) :
    Except ImageError (Option (Nat × Bytes)) :=
  match directory.find? (·.kind = kind) with
  | none => .ok none
  | some record =>
    match image.part? record.offset record.size with
    | some payload => .ok (some (record.offset, payload))
    | none => .error (.sectionOutOfBounds kind record.offset record.size image.size)

end FpgaHost
