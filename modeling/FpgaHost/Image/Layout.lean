/-!
# Layout of an image

An image is a fixed preamble, a header, a directory of section records and the payloads of the
sections. This module holds the numbers of that layout: offsets from the start of the image, offsets
inside the header and inside a record, and sizes. All numbers in an image are written least
significant byte first.
-/

namespace FpgaHost.Layout

/-! ### The image -/

/-- The bytes that every image begins with. -/
def magic : List UInt8 := [0x78, 0x63, 0x6C, 0x62, 0x69, 0x6E, 0x32, 0x00]

/-- The number of magic bytes. -/
def magicSize : Nat := 8

/-- Where the length of the signature stands, as a signed number of four bytes. -/
def signatureLength : Nat := 0x008

/-- Where the unique identifier stands. -/
def uniqueId : Nat := 0x128

/-- Where the header begins. -/
def header : Nat := 0x130

/-- The size of the header. -/
def headerSize : Nat := 152

/-- Where the directory begins. -/
def directory : Nat := header + headerSize

/-- The size of one record of the directory. -/
def recordSize : Nat := 40

/-- The size of an image with a directory of one record and no payload. -/
def minImageSize : Nat := directory + recordSize

/-- The vendor whose devices such images are for. -/
def vendor : String := "Xilinx"

/-! ### The header, by offset from its start -/

namespace Header

/-- The length of the image. -/
def length : Nat := 0

/-- When the image was made. -/
def timestamp : Nat := 8

/-- The time stamp of the platform. -/
def romTimestamp : Nat := 16

/-- The patch number of the version. -/
def versionPatch : Nat := 24

/-- The major number of the version. -/
def versionMajor : Nat := 26

/-- The minor number of the version. -/
def versionMinor : Nat := 27

/-- The code of the mode. -/
def mode : Nat := 28

/-- The action mask. -/
def actionMask : Nat := 30

/-- The identifier of the platform. -/
def romUuid : Nat := 32

/-- The name of the platform. -/
def platformName : Nat := 48

/-- How many bytes the name of the platform takes. -/
def platformNameSize : Nat := 64

/-- The identifier of the image. -/
def uuid : Nat := 112

/-- The name of the debug file. -/
def debugBinary : Nat := 128

/-- The number of records in the directory. -/
def sectionCount : Nat := 144

end Header

/-! ### A directory record, by offset from its start -/

namespace Record

/-- The code of the kind. -/
def kind : Nat := 0

/-- The name of the section. -/
def name : Nat := 4

/-- How many bytes the name takes. -/
def nameSize : Nat := 16

/-- Where the payload begins. -/
def offset : Nat := 24

/-- The size of the payload. -/
def size : Nat := 32

end Record

/-! ### The memory topology -/

namespace Topology

/-- The number of banks. -/
def count : Nat := 0

/-- Where the records begin: after the count and four unused bytes. -/
def records : Nat := 8

/-- The size of the record of a bank. -/
def recordSize : Nat := 40

/-- The type of memory of a bank. -/
def memoryType : Nat := 0

/-- Whether a bank is used. -/
def used : Nat := 1

/-- The size of a bank in units of 1024 bytes. -/
def sizeKb : Nat := 8

/-- The first address of a bank. -/
def baseAddress : Nat := 16

/-- The tag of a bank. -/
def tag : Nat := 24

/-- How many bytes the tag takes. -/
def tagSize : Nat := 16

end Topology

/-! ### The connectivity table -/

namespace Connectivity

/-- The number of connections. -/
def count : Nat := 0

/-- Where the records begin: right after the count. -/
def records : Nat := 4

/-- The size of the record of a connection. -/
def recordSize : Nat := 12

/-- The index of the argument. -/
def argument : Nat := 0

/-- The index of the compute unit. -/
def unit : Nat := 4

/-- The position of the bank in the topology. -/
def bank : Nat := 8

end Connectivity

/-- The directory begins where the header ends. -/
example : directory = 456 ∧ minImageSize = 496 := by decide

end FpgaHost.Layout
