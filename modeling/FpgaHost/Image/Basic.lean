import FpgaHost.Image.Header
import FpgaHost.Image.Manifest
import FpgaHost.Image.Memory

/-!
# Images

Reading an image: header, directory, manifest, then the two tables that place the arguments in
memory. `Image.read` reads one format; `FormatReader.identify` asks readers of several formats in
turn and takes the first that does not decline.

The first failure on the way is the error: a mode without meaning before a short directory, a
missing manifest before a section out of bounds, the topology before the connectivity table, which
is not consulted at all unless there is a topology.
-/

namespace FpgaHost

/-- The formats of images. -/
inductive Format where
  /-- Header, directory and sections. -/
  | xclbin
  deriving DecidableEq, Repr

/-- The name of a format. -/
def Format.name : Format → String
  | .xclbin => "xclbin2"

/-- The device that an image is for. -/
structure DeviceIdentity where
  /-- The vendor of the platform. -/
  vendor : String
  /-- The name of the device. -/
  device : String
  deriving DecidableEq, Repr

/-- What an image says. -/
structure Image where
  /-- The format it is in. -/
  format : Format
  /-- The header. -/
  header : Header
  /-- The directory. -/
  sections : List SectionRecord
  /-- The device it is for. -/
  identity : DeviceIdentity
  /-- The emulation it is for. -/
  emulation : Option Emulation
  /-- The target in the manifest. -/
  target : Option String
  /-- The kernels in order. -/
  kernels : List KernelDecl
  /-- The arguments of all kernels. -/
  args : ArgumentTable
  /-- The bytes it was read from. -/
  bytes : Bytes

namespace Image

/-- The name of the kernel that a session drives: the first one. -/
def kernelName (image : Image) : String :=
  match image.kernels with
  | [] => ""
  | k :: _ => k.name

/-- The arguments with the tags of their banks, as far as the tables of an image say. -/
def placeArguments (image : Bytes) (sections : List SectionRecord) (args : ArgumentTable) :
    Except ImageError ArgumentTable := do
  match ← findSection image sections .memTopology with
  | none => return args
  | some (base, payload) =>
    let banks ← readMemoryBanks payload base
    match ← findSection image sections .connectivity with
    | none => return args
    | some (base, payload) =>
      let connections ← readConnections payload base
      return assignBankTags args banks.toArray connections

/-- Reads an image whose manifest is a document for a reader of documents. -/
def readWith (reader : Xml.Reader) (image : Bytes) : Except ImageError Image := do
  if !hasMagic image then throw .notRecognized
  let header ← Header.read image
  let sections ← readDirectory image header.sectionCount
  match ← findSection image sections .embeddedMetadata with
  | none => throw (.missingSection .embeddedMetadata)
  | some (_, payload) =>
    let manifest ← (Manifest.readWith reader payload).mapError .manifest
    let args ← placeArguments image sections manifest.args
    return {
      format := .xclbin
      header, sections
      identity := ⟨Layout.vendor, header.platformName⟩
      emulation := Emulation.resolve header.mode manifest.target
      target := manifest.target
      kernels := manifest.kernels
      args
      bytes := image }

/-- Reads an image. -/
def read (image : Bytes) : Except ImageError Image := readWith Xml.parse? image

end Image

/-! ### Several formats -/

/-- A reader of a format: the image, none if the bytes are in another format, or an error. -/
abbrev FormatReader := Bytes → Except ImageError (Option Image)

namespace FormatReader

/-- The reader of images with header, directory and sections. -/
def xclbin : FormatReader := fun image =>
  match Image.read image with
  | .ok i => .ok (some i)
  | .error e => if e.isNotRecognized then .ok none else .error e

/-- Asks readers in turn; `tried` counts those that declined already. -/
def firstOf (image : Bytes) (tried : Nat) : List FormatReader → Except ImageError Image
  | [] => .error (.unrecognizedFormat image.size tried)
  | reader :: rest =>
    match reader image with
    | .error e => .error e
    | .ok (some i) => .ok i
    | .ok none => firstOf image (tried + 1) rest

/-- The answer of the first reader that does not decline. -/
def identify (readers : List FormatReader) (image : Bytes) : Except ImageError Image :=
  firstOf image 0 readers

/-- The readers that are asked by default. -/
def default : List FormatReader := [xclbin]

end FormatReader

/-- Reads an image in any format. -/
def Image.ofBytes (image : Bytes) : Except ImageError Image :=
  FormatReader.identify FormatReader.default image

/-! ### Images in files -/

/-- What a path leads to. -/
inductive FileEntry where
  /-- A file with its content. -/
  | file (content : Bytes)
  /-- A directory. -/
  | directory
  /-- Something that cannot be read. -/
  | unreadable (cause : FileError)
  deriving DecidableEq, Repr

/-- Reads the image at a path, given what the path leads to. -/
def Image.ofFile (path : String) : Option FileEntry → Except ImageError Image
  | none => .error (.fileNotFound path)
  | some (.file content) => Image.ofBytes content
  | some .directory => .error (.unreadable .isDirectory)
  | some (.unreadable cause) => .error (.unreadable cause)

end FpgaHost
