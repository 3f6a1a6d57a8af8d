/-!
# Kinds of sections

A directory record says what its payload is by a code of four bytes. Codes without a meaning here
are kept as they are, so every code is some kind and no two codes are one kind.
-/

namespace FpgaHost

/-- What the payload of a section is. -/
inductive SectionKind where
  /-- The configuration of the device. -/
  | bitstream
  /-- The manifest: kernels and their arguments. -/
  | embeddedMetadata
  /-- The memory banks. -/
  | memTopology
  /-- Which argument is connected to which bank. -/
  | connectivity
  /-- The placement of the kernels. -/
  | ipLayout
  /-- The clocks. -/
  | clockFreqTopology
  /-- How the image was built. -/
  | buildMetadata
  /-- Any other code. -/
  | other (code : UInt32)
  deriving DecidableEq, Repr

namespace SectionKind

/-- The kind of a code. -/
def ofCode (code : UInt32) : SectionKind :=
  if code = 0 then .bitstream
  else if code = 2 then .embeddedMetadata
  else if code = 6 then .memTopology
  else if code = 7 then .connectivity
  else if code = 8 then .ipLayout
  else if code = 11 then .clockFreqTopology
  else if code = 14 then .buildMetadata
  else .other code

/-- The code of a kind. -/
def code : SectionKind → UInt32
  | .bitstream => 0
  | .embeddedMetadata => 2
  | .memTopology => 6
  | .connectivity => 7
  | .ipLayout => 8
  | .clockFreqTopology => 11
  | .buildMetadata => 14
  | .other code => code

/-- The name of a kind. -/
def name : SectionKind → String
  | .bitstream => "BITSTREAM"
  | .embeddedMetadata => "EMBEDDED_METADATA"
  | .memTopology => "MEM_TOPOLOGY"
  | .connectivity => "CONNECTIVITY"
  | .ipLayout => "IP_LAYOUT"
  | .clockFreqTopology => "CLOCK_FREQ_TOPOLOGY"
  | .buildMetadata => "BUILD_METADATA"
  | .other code => s!"SECTION({code})"

/-- Whether a kind is a code without a meaning here. -/
def isOther : SectionKind → Bool
  | .other _ => true
  | _ => false

/-- A code is read back from its kind. -/
@[simp] theorem code_ofCode (code : UInt32) : (ofCode code).code = code := by
  unfold ofCode
  repeat' split
  all_goals simp_all [SectionKind.code]

end SectionKind

end FpgaHost
