import FpgaHost.Proofs.Image.Assembly
import FpgaHost.Proofs.Image.Declared
import FpgaHost.Proofs.Image.Manifest
import FpgaHost.Proofs.Image.Tables

/-!
# An assembled image is read back

`ImageSpec.build` writes an image and `Image.read` reads one; neither is defined by the other. The
main statement, `ImageSpec.read_build`, says what the reader makes of everything the writer can
write: which specifications it refuses and why, and the image it answers for all others
(`ImageSpec.assembled`).

What a field cannot hold is not read back. A specification fits (`ImageSpec.Fits`) if its texts
leave room for the zero byte that ends them and hold none, if its tables have fewer than `2 ^ 31`
records, the counts being signed, and if the image as a whole can be held in memory.
-/

namespace FpgaHost

namespace ImageSpec

/-- What a specification says can be held by the fields of an image. -/
structure Fits (s : ImageSpec) : Prop where
  /-- The name of the device fits in the header. -/
  device : FitsField Layout.Header.platformNameSize s.device
  /-- The tag of every bank fits in its record. -/
  tags : ∀ b ∈ s.banks, FitsField Layout.Topology.tagSize b.tag
  /-- The number of banks is not taken for a negative one. -/
  banks : s.banks.length < 2 ^ 31
  /-- Nor is the number of connections. -/
  connections : s.connections.length < 2 ^ 31
  /-- The image is one that a memory with addresses of eight bytes can hold. -/
  size : s.build.size < 2 ^ 64

/-! ### The sections -/

theorem find?_manifest (s : ImageSpec) :
    s.payloads.find? (·.kind = .embeddedMetadata) =
      if s.withManifest then
        some ⟨.embeddedMetadata, "metadata", Utf8.encode s.document ++ [0]⟩ else none := by
  unfold payloads
  split <;> split <;> split <;> rfl

theorem find?_topology (s : ImageSpec) :
    s.payloads.find? (·.kind = .memTopology) =
      if s.banks.isEmpty then none
      else some ⟨.memTopology, "mem_topology", s.topologyPayload⟩ := by
  unfold payloads
  split <;> split <;> split <;> rfl

theorem find?_connectivity (s : ImageSpec) :
    s.payloads.find? (·.kind = .connectivity) =
      if s.connections.isEmpty then none
      else some ⟨.connectivity, "connectivity", s.connectivityPayload⟩ := by
  unfold payloads
  split <;> split <;> split <;> rfl

/-! ### The arguments in memory -/

/-- The arguments of a manifest, each with the tag that the specification gives it. -/
def place (s : ImageSpec) (args : ArgumentTable) : ArgumentTable :=
  args.map fun index a => { a with bankTag := s.tagOf? index }

theorem usedTag?_of_no_banks {s : ImageSpec} (none : s.banks = []) (position : Int32) :
    s.usedTag? position = .none := by
  rw [usedTag?, none]
  split <;> rfl

/-- Without banks, or without connections, no argument has a tag. -/
theorem tagOf?_eq_none {s : ImageSpec} (none : s.banks = [] ∨ s.connections = []) (index : Nat) :
    s.tagOf? index = .none := by
  rcases none with none | none
  · rw [tagOf?, List.getLast?_eq_none_iff, List.filterMap_eq_nil_iff]
    intro c _
    rw [usedTag?_of_no_banks none, ite_self]
  · rw [tagOf?, none]
    rfl

theorem place_eq_self {s : ImageSpec} {args : ArgumentTable} (unplaced : Manifest.Unplaced args)
    (none : s.banks = [] ∨ s.connections = []) : s.place args = args := by
  refine Table.map_self fun e mem => ?_
  rw [tagOf?_eq_none none, ← unplaced e mem]

theorem assignBankTags_eq {s : ImageSpec} {args : ArgumentTable}
    (unplaced : Manifest.Unplaced args) :
    assignBankTags args s.bankTable.toArray (s.connections.map connectionOf) = s.place args := by
  rw [assignBankTags, place]
  refine Table.map_congr fun e mem => ?_
  have untagged : { e.2 with bankTag := none } = e.2 := by rw [← unplaced e mem]
  simp only [connectedTags_eq]
  cases s.tagOf? e.1 with
  | none => exact untagged.symm
  | some tag => rfl

theorem placeArguments_build {s : ImageSpec} (fits : s.Fits) {args : ArgumentTable}
    (unplaced : Manifest.Unplaced args) :
    Image.placeArguments s.build s.directory args = .ok (s.place args) := by
  have body := (builtAt_build s).body
  have topology := find?_topology s
  have connectivity := find?_connectivity s
  by_cases no_banks : s.banks = []
  · rw [no_banks, List.isEmpty_nil, if_pos rfl] at topology
    rw [place_eq_self unplaced (.inl no_banks), Image.placeArguments, directory,
      findSection_absent topology]
    rfl
  rw [if_neg (by simpa using no_banks)] at topology
  obtain ⟨base, found⟩ := findSection_present body topology
  have banks := readMemoryBanks_topologyPayload base fits.banks fits.tags
  by_cases no_connections : s.connections = []
  · rw [no_connections, List.isEmpty_nil, if_pos rfl] at connectivity
    rw [place_eq_self unplaced (.inr no_connections), Image.placeArguments, directory,
      found, ok_bind]
    simp only [banks, ok_bind, findSection_absent connectivity]
    rfl
  · rw [if_neg (by simpa using no_connections)] at connectivity
    obtain ⟨base', found'⟩ := findSection_present body connectivity
    rw [Image.placeArguments, directory, found, ok_bind]
    simp only [banks, ok_bind, found', readConnections_connectivityPayload base' fits.connections,
      assignBankTags_eq unplaced]
    rfl

/-! ### The image -/

/-- The image that a specification describes, given its mode and what its manifest says. -/
def assembled (s : ImageSpec) (mode : ImageMode) (m : Manifest) : Image where
  format := .xclbin
  header := s.header mode
  sections := s.directory
  identity := ⟨Layout.vendor, s.device⟩
  emulation := Emulation.resolve mode m.target
  target := m.target
  kernels := m.kernels
  args := s.place m.args
  bytes := s.build

section
variable {reader : Xml.Reader} {s : ImageSpec} {mode : ImageMode}

theorem readWith_build_unknown (unknown : ImageMode.ofCode? s.mode = none) :
    Image.readWith reader s.build = .error (.unknownMode s.mode) := by
  rw [Image.readWith]
  simp only [hasMagic_build s, read_header_build_unknown unknown, error_bind]
  rfl

theorem readWith_build_leftOut (fits : s.Fits) (known : ImageMode.ofCode? s.mode = some mode)
    (left_out : s.withManifest = false) :
    Image.readWith reader s.build = .error (.missingSection .embeddedMetadata) := by
  have header := read_header_build known fits.device fits.size
  have directory := readDirectory_build fits.size
  have count : (s.header mode).sectionCount = s.payloads.length := rfl
  have manifest := find?_manifest s
  rw [left_out, if_neg Bool.false_ne_true] at manifest
  rw [Image.readWith]
  simp only [hasMagic_build s, header, count, directory, ok_bind]
  rw [ImageSpec.directory, findSection_absent manifest]
  rfl

theorem readWith_build_present (fits : s.Fits) (known : ImageMode.ofCode? s.mode = some mode)
    (present : s.withManifest = true) :
    Image.readWith reader s.build =
      ((Manifest.readWith reader (.ofList (Utf8.encode s.document))).mapError .manifest).map
        (s.assembled mode) := by
  have magic := hasMagic_build s
  have header := read_header_build known fits.device fits.size
  have directory := readDirectory_build fits.size
  have count : (s.header mode).sectionCount = s.payloads.length := rfl
  have manifest := find?_manifest s
  rw [present, if_pos rfl] at manifest
  obtain ⟨base, found⟩ := findSection_present (builtAt_build s).body manifest
  rw [← ImageSpec.directory] at found
  have text := Manifest.readWith_append_zero reader (Utf8.encode s.document)
  cases outcome : Manifest.readWith reader (.ofList (Utf8.encode s.document)) with
  | error cause =>
    rw [outcome] at text
    rw [Image.readWith]
    simp only [magic, header, count, directory, found, text, ok_bind]
    rfl
  | ok m =>
    rw [outcome] at text
    have placed := placeArguments_build fits (Manifest.unplaced_of_read outcome)
    rw [Image.readWith]
    simp only [magic, header, count, directory, found, text, mapError_ok, placed, ok_bind]
    rfl

/-- An image whose manifest was generated and has a kernel is read back as it was specified, by
every faithful reader of documents. -/
theorem readWith_generated_build (faithful : reader.Faithful) (fits : s.Fits)
    (known : ImageMode.ofCode? s.mode = some mode) (present : s.withManifest = true)
    (generated : s.manifestText = none) (legible : s.Legible) (some : s.kernels ≠ []) :
    Image.readWith reader s.build = .ok (s.assembled mode s.manifest) := by
  rw [readWith_build_present fits known present, readWith_document faithful generated legible,
    if_neg some]
  rfl

end

/-- What reading an assembled image comes to. A code without a meaning is reported, and so is a
manifest that was left out. Otherwise reading fails exactly when the manifest cannot be read, with
the error of the manifest; else it answers the image that was specified. -/
theorem read_build (s : ImageSpec) (fits : s.Fits) :
    (ImageMode.ofCode? s.mode = none → Image.read s.build = .error (.unknownMode s.mode)) ∧
    ∀ mode, ImageMode.ofCode? s.mode = some mode →
      (s.withManifest = false →
        Image.read s.build = .error (.missingSection .embeddedMetadata)) ∧
      (s.withManifest = true →
        Image.read s.build =
          ((Manifest.read (.ofList (Utf8.encode s.document))).mapError .manifest).map
            (s.assembled mode)) :=
  ⟨readWith_build_unknown, fun _ known =>
    ⟨readWith_build_leftOut fits known, readWith_build_present fits known⟩⟩

/-- An emulated device with a bank in use and one that is not, and connections of one argument to
both, to a bank that is not there and to no bank at all. -/
def twoBanks : ImageSpec :=
  let s := (ofKernel "u280" "vadd").withMode .hardwareEmulation |>.buffer "in" "float*"
  let s := s.bank { tag := "HBM[0]" } |>.bank { tag := "HBM[1]", used := false }
  s.connect 0 0 |>.connect 0 1 |>.connect 0 2 |>.connect 0 (-1)

theorem fits_twoBanks : twoBanks.Fits where
  device := ⟨by decide, by decide⟩
  tags := by
    intro b mem
    rcases List.mem_cons.1 mem with rfl | mem
    · exact ⟨by decide, by decide⟩
    · obtain rfl := List.mem_singleton.1 mem
      exact ⟨by decide, by decide⟩
  banks := by decide
  connections := by decide
  size := by
    have text : Utf8.encode twoBanks.document = Utf8.encodeChars twoBanks.generatedChars :=
      congrArg Utf8.encodeChars String.toList_ofList
    have payloads : twoBanks.payloads =
        [⟨.embeddedMetadata, "metadata", Utf8.encode twoBanks.document ++ [0]⟩,
          ⟨.memTopology, "mem_topology", twoBanks.topologyPayload⟩,
          ⟨.connectivity, "connectivity", twoBanks.connectivityPayload⟩] := rfl
    rw [(builtAt_build twoBanks).size, payloads, text]
    decide +kernel

theorem legible_twoBanks : twoBanks.Legible :=
  ⟨by decide, by decide, by decide, by decide, by decide⟩

theorem read_twoBanks :
    Image.read twoBanks.build = .ok (twoBanks.assembled .hardwareEmulation twoBanks.manifest) :=
  readWith_generated_build Xml.faithful_parse? fits_twoBanks rfl rfl rfl legible_twoBanks (by decide)

theorem read_build_twoBanks :
    twoBanks.Fits ∧ twoBanks.tagOf? 0 = some "HBM[0]" ∧
      Image.read twoBanks.build =
        ((Manifest.read (.ofList (Utf8.encode twoBanks.document))).mapError .manifest).map
          (twoBanks.assembled .hardwareEmulation) :=
  ⟨fits_twoBanks, by decide, ((read_build twoBanks fits_twoBanks).2 .hardwareEmulation rfl).2 rfl⟩

end ImageSpec

end FpgaHost
