import FpgaHost.Proofs.Image.RoundTrip

/-!
# What the reading of an image depends on

Reading selects a few ranges of the bytes: the magic bytes, header and directory, and the payloads
of the first manifest, of the first topology and, where there is a topology, of the first
connectivity table (`Image.selected`). Nothing else influences the answer. The argument follows two
sequences of bytes through every read: if they agree on the range that a reader is given
(`Bytes.AgreesOn`), what the reader answers on the first it answers on the second (`Follows`).

Every range that a successful reading selects lies inside the image (`Image.selected_inside`), so
bytes put behind an image change nothing, and an image cut short says either nothing or the same.

Main statement: `Image.read_of_agreesOn_selected`.
-/

namespace FpgaHost

/-! ### Agreement -/

/-- One sequence has, from a start up to a stop, the bytes that another has there. -/
structure Bytes.AgreesOn (a b : Bytes) (start stop : Nat) : Prop where
  /-- The range lies inside the second sequence. -/
  inside : stop ≤ b.size
  /-- The bytes are the same at every position of the range. -/
  same : ∀ i, start ≤ i → i < stop → b.toList[i]? = a.toList[i]?

section Agreement

variable {a b : Bytes} {start stop : Nat}

namespace Bytes

/-- Sequences that agree on a range have the same part at every place inside it. -/
theorem AgreesOn.part_eq (agrees : a.AgreesOn b start stop) {offset len : Nat}
    (above : start ≤ offset) (below : offset + len ≤ stop) :
    (b.toList.drop offset).take len = (a.toList.drop offset).take len := by
  refine List.ext_getElem? fun i => ?_
  by_cases within : i < len
  · rw [List.getElem?_take_of_lt within, List.getElem?_take_of_lt within, List.getElem?_drop,
      List.getElem?_drop]
    exact agrees.same (offset + i) (by omega) (by omega)
  · rw [List.getElem?_eq_none (by rw [List.length_take]; omega),
      List.getElem?_eq_none (by rw [List.length_take]; omega)]

theorem AgreesOn.part? (agrees : a.AgreesOn b start stop) {offset len : Nat}
    (above : start ≤ offset) (below : offset + len ≤ stop) {part : Bytes}
    (found : a.part? offset len = some part) : b.part? offset len = some part := by
  have inside := agrees.inside
  rw [part?_eq_some_iff] at found ⊢
  exact ⟨by omega, found.2.trans (agrees.part_eq above below).symm⟩

/-- Bytes put behind a sequence leave every range inside it as it was. -/
theorem agreesOn_append (rest : Octets) (start : Nat) (inside : stop ≤ a.size) :
    a.AgreesOn (.ofList (a.toList ++ rest)) start stop where
  inside := by
    rw [size_ofList, List.length_append, length_toList]
    omega
  same := fun i _ below => by
    rw [toList_ofList, List.getElem?_append_left (by rw [length_toList]; omega)]

/-- An overwrite leaves every range before it and behind it as it was. -/
theorem agreesOn_overwrite {offset : Nat} {patch : Bytes}
    (behind : offset + patch.size ≤ start ∨ stop ≤ offset) (inside : stop ≤ a.size) :
    a.AgreesOn (a.overwrite offset patch) start stop where
  inside := by rwa [size_overwrite]
  same := fun i above below => by
    have within : i < a.toList.length := by rw [length_toList]; omega
    rw [length_toList] at within
    rw [toList_overwrite, List.append_assoc]
    rcases behind with before | after
    · have ends : (a.toList.take offset).length = offset := by
        rw [List.length_take, length_toList]
        omega
      have patched : (patch.toList.take (a.size - offset)).length = patch.size := by
        rw [List.length_take, length_toList]
        omega
      rw [List.getElem?_append_right (by omega), List.getElem?_append_right (by omega), ends,
        patched, List.getElem?_drop]
      congr 1
      omega
    · rw [List.getElem?_append_left (by rw [List.length_take, length_toList]; omega),
        List.getElem?_take_of_lt (by omega)]

end Bytes

/-! ### Fields and records -/

namespace Region

variable {base : Nat} {field : String} {offset : Nat}

theorem follows_bytes (agrees : a.AgreesOn b start stop) {len : Nat} (above : start ≤ offset)
    (below : offset + len ≤ stop) :
    Follows (bytes ⟨a, base⟩ field offset len) (bytes ⟨b, base⟩ field offset len) := by
  intro part found
  have inside := agrees.inside
  rw [bytes_eq_ok_iff] at found ⊢
  exact ⟨by show offset + len ≤ b.size; omega, found.2.trans (agrees.part_eq above below).symm⟩

theorem follows_number (agrees : a.AgreesOn b start stop) {width : Nat} (above : start ≤ offset)
    (below : offset + width ≤ stop) :
    Follows (number ⟨a, base⟩ field offset width) (number ⟨b, base⟩ field offset width) :=
  (follows_bytes agrees above below).map _

theorem follows_text (agrees : a.AgreesOn b start stop) {width : Nat} (above : start ≤ offset)
    (below : offset + width ≤ stop) :
    Follows (text ⟨a, base⟩ field offset width) (text ⟨b, base⟩ field offset width) :=
  (follows_bytes agrees above below).map _

theorem follows_records {ε α : Type} {read read' : Nat → Except ε α} {count : Nat}
    (each : ∀ i < count, Follows (read i) (read' i)) :
    Follows (records read count) (records read' count) := by
  intro rs answered
  rw [records_eq_ok_iff] at answered ⊢
  obtain ⟨length, all⟩ := answered
  exact ⟨length, fun i inside => each i (length ▸ inside) _ (all i inside)⟩

end Region

/-! ### Header, directory and sections -/

theorem hasMagic_iff {image : Bytes} :
    hasMagic image = true ↔ 8 ≤ image.size ∧ image.toList.take 8 = Layout.magic := by
  rw [hasMagic, Option.any_eq_true]
  constructor
  · rintro ⟨part, found, same⟩
    obtain ⟨inside, bytes⟩ := Bytes.part?_eq_some_iff.1 found
    refine ⟨by simpa [Layout.magicSize] using inside, ?_⟩
    rw [← eq_of_beq same, bytes]
    rfl
  · rintro ⟨inside, same⟩
    have found : image.part? 0 Layout.magicSize = some (.ofList Layout.magic) := by
      rw [Bytes.part?_eq_some_iff, Bytes.toList_ofList]
      exact ⟨by simpa [Layout.magicSize] using inside, same.symm⟩
    exact ⟨_, found, by rw [Bytes.toList_ofList, beq_self_eq_true]⟩

theorem hasMagic_of_agreesOn (agrees : a.AgreesOn b 0 Layout.magicSize)
    (magic : hasMagic a = true) : hasMagic b = true := by
  rw [hasMagic, Option.any_eq_true] at magic ⊢
  obtain ⟨part, found, same⟩ := magic
  exact ⟨part, agrees.part? (Nat.le_refl 0) (Nat.le_refl _) found, same⟩

theorem Header.follows_read (front : a.AgreesOn b Layout.header stop)
    (room : Layout.directory ≤ stop) : Follows (Header.read a) (Header.read b) := by
  have ends : Layout.header + Layout.headerSize = Layout.directory := rfl
  have number (field : String) {offset width : Nat}
      (inside : offset + width ≤ Layout.headerSize) :
      Follows (Region.number ⟨a, 0⟩ field (Layout.header + offset) width)
        (Region.number ⟨b, 0⟩ field (Layout.header + offset) width) :=
    Region.follows_number front (by omega) (by omega)
  have name : Follows
      (Region.text ⟨a, 0⟩ "m_platformVBNV" (Layout.header + Layout.Header.platformName)
        Layout.Header.platformNameSize)
      (Region.text ⟨b, 0⟩ "m_platformVBNV" (Layout.header + Layout.Header.platformName)
        Layout.Header.platformNameSize) :=
    Region.follows_text front (by omega) (Nat.le_trans (by decide) room)
  unfold Header.read
  simp only
  refine (Region.follows_bytes front (Nat.le_refl _) room).bind fun _ _ => ?_
  refine (number "m_mode" (by decide)).bind fun code _ => ?_
  cases ImageMode.ofCode? (UInt16.ofNat code) with
  | none => exact .refl _
  | some mode =>
    refine (number "m_length" (by decide)).bind fun length _ => ?_
    refine (number "m_timeStamp" (by decide)).bind fun timestamp _ => ?_
    refine (number "m_versionMajor" (by decide)).bind fun major _ => ?_
    refine (number "m_versionMinor" (by decide)).bind fun minor _ => ?_
    refine (number "m_versionPatch" (by decide)).bind fun patch _ => ?_
    refine name.bind fun platformName _ => ?_
    exact (number "m_numSections" (by decide)).bind fun sectionCount _ => .refl _

theorem SectionRecord.follows_read {position : Nat} (front : a.AgreesOn b start stop)
    (above : start ≤ Layout.directory)
    (below : Layout.directory + (position + 1) * Layout.recordSize ≤ stop) :
    Follows (SectionRecord.read a position) (SectionRecord.read b position) := by
  rw [Nat.succ_mul, ← Nat.add_assoc] at below
  have begins : start ≤ Layout.directory + position * Layout.recordSize := by omega
  unfold SectionRecord.read
  simp only
  -- every field lies between the start of the record and its end
  generalize Layout.directory + position * Layout.recordSize = record at begins below ⊢
  have number (field : String) {offset width : Nat} (inside : offset + width ≤ Layout.recordSize) :
      Follows (Region.number ⟨a, 0⟩ field (record + offset) width)
        (Region.number ⟨b, 0⟩ field (record + offset) width) :=
    Region.follows_number front (by omega) (by omega)
  have inside : Layout.Record.name + Layout.Record.nameSize ≤ Layout.recordSize := by decide
  refine (Region.follows_bytes front begins below).bind fun _ _ => ?_
  refine (number "m_sectionKind" (by decide)).bind fun code _ => ?_
  refine (Region.follows_text front (by omega) (by omega)).bind fun name _ => ?_
  refine (number "m_sectionOffset" (by decide)).bind fun offset _ => ?_
  exact (number "m_sectionSize" (by decide)).bind fun size _ => .refl _

theorem follows_readDirectory {count : Nat} (front : a.AgreesOn b start stop)
    (above : start ≤ Layout.directory)
    (below : Layout.directory + count * Layout.recordSize ≤ stop) :
    Follows (readDirectory a count) (readDirectory b count) := by
  refine Region.follows_records fun i inside => SectionRecord.follows_read front above ?_
  have upTo : (i + 1) * Layout.recordSize ≤ count * Layout.recordSize :=
    Nat.mul_le_mul_right _ inside
  omega

theorem follows_findSection {directory : List SectionRecord} {kind : SectionKind}
    (payload : ∀ r, directory.find? (·.kind = kind) = some r →
      a.AgreesOn b r.offset (r.offset + r.size)) :
    Follows (findSection a directory kind) (findSection b directory kind) := by
  unfold findSection
  cases first : directory.find? (·.kind = kind) with
  | none => exact .refl _
  | some r =>
    have agrees := payload r first
    cases found : a.part? r.offset r.size with
    | none =>
      intro _ answered
      simp only [found, reduceCtorEq] at answered
    | some part =>
      simp only [found, agrees.part? (Nat.le_refl _) (Nat.le_refl _) found]
      exact .refl _

theorem findSection_eq_none_iff {image : Bytes} {directory : List SectionRecord}
    {kind : SectionKind} :
    findSection image directory kind = .ok none ↔ directory.find? (·.kind = kind) = none := by
  unfold findSection
  cases directory.find? (·.kind = kind) with
  | none => simp
  | some r => cases part : image.part? r.offset r.size <;> simp [part]

theorem findSection_eq_some_iff {image : Bytes} {directory : List SectionRecord}
    {kind : SectionKind} {base : Nat} {payload : Bytes} :
    findSection image directory kind = .ok (some (base, payload)) ↔
      ∃ r, directory.find? (·.kind = kind) = some r ∧ r.offset = base ∧
        image.part? r.offset r.size = some payload := by
  unfold findSection
  cases directory.find? (·.kind = kind) with
  | none => simp
  | some r => cases part : image.part? r.offset r.size <;> simp [part]

/-- A section is refused only for a range that goes on behind the image. -/
theorem findSection_eq_error_iff {image : Bytes} {directory : List SectionRecord}
    {kind : SectionKind} {e : ImageError} :
    findSection image directory kind = .error e ↔
      ∃ r, directory.find? (·.kind = kind) = some r ∧ image.size < r.offset + r.size ∧
        .sectionOutOfBounds kind r.offset r.size image.size = e := by
  unfold findSection
  cases directory.find? (·.kind = kind) with
  | none => simp
  | some r =>
    simp only [← Bytes.part?_eq_none_iff]
    cases part : image.part? r.offset r.size <;> simp [part]

end Agreement

/-! ### The image as a whole -/

namespace Image

/-- The first record of a kind in the directory. -/
def first? (image : Image) (kind : SectionKind) : Option SectionRecord :=
  image.sections.find? (·.kind = kind)

/-- Where the payload of the first record of a kind begins and where it ends. -/
def payloadRange? (image : Image) (kind : SectionKind) : Option (Nat × Nat) :=
  (image.first? kind).map fun r => (r.offset, r.offset + r.size)

/-- The kinds of sections that reading an image looks for. The connectivity table is not consulted
unless there is a topology. -/
def consulted (image : Image) : List SectionKind :=
  [.embeddedMetadata, .memTopology] ++
    if (image.first? .memTopology).isSome then [.connectivity] else []

/-- The ranges of bytes that reading an image selects, each with its start and its stop: the magic
bytes, header and directory, and the payloads that are consulted. -/
def selected (image : Image) : List (Nat × Nat) :=
  (0, Layout.magicSize) ::
    (Layout.header, Layout.directory + image.header.sectionCount * Layout.recordSize) ::
    image.consulted.filterMap image.payloadRange?

theorem mem_selected_iff {image : Image} {range : Nat × Nat} :
    range ∈ image.selected ↔ range = (0, Layout.magicSize) ∨
      range = (Layout.header,
        Layout.directory + image.header.sectionCount * Layout.recordSize) ∨
      ∃ kind ∈ image.consulted, ∃ r, image.first? kind = some r ∧
        range = (r.offset, r.offset + r.size) := by
  simp only [selected, List.mem_cons, List.mem_filterMap, payloadRange?, Option.map_eq_some_iff,
    eq_comm (b := range)]

/-- What has been read where an image was the answer. -/
structure ReadFrom (image : Image) (data : Bytes) (manifest : Manifest) : Prop where
  /-- The magic bytes are there. -/
  magic : hasMagic data = true
  /-- The header was read. -/
  header : Header.read data = .ok image.header
  /-- The directory was read. -/
  directory : readDirectory data image.header.sectionCount = .ok image.sections
  /-- The manifest was found and read. -/
  payload : ∃ base payload,
    findSection data image.sections .embeddedMetadata = .ok (some (base, payload)) ∧
      Manifest.read payload = .ok manifest
  /-- Its arguments were placed in memory. -/
  args : placeArguments data image.sections manifest.args = .ok image.args
  /-- All else follows from these. -/
  rest : image = {
    format := .xclbin
    header := image.header
    sections := image.sections
    identity := ⟨Layout.vendor, image.header.platformName⟩
    emulation := Emulation.resolve image.header.mode manifest.target
    target := manifest.target
    kernels := manifest.kernels
    args := image.args
    bytes := data }

theorem read_eq_ok_iff {data : Bytes} {image : Image} :
    read data = .ok image ↔ ∃ manifest, image.ReadFrom data manifest := by
  rw [read, readWith]
  cases magic : hasMagic data with
  | false =>
    constructor
    · intro answered
      contradiction
    · rintro ⟨manifest, whole⟩
      exact absurd whole.magic (by rw [magic]; exact Bool.false_ne_true)
  | true =>
    simp only [Bool.not_true, Bool.false_eq_true, if_false]
    constructor
    · intro answered
      obtain ⟨header, header_read, answered⟩ := bind_eq_ok_iff.1 answered
      obtain ⟨sections, directory, answered⟩ := bind_eq_ok_iff.1 answered
      obtain ⟨found, section_found, answered⟩ := bind_eq_ok_iff.1 answered
      cases found with
      | none => contradiction
      | some found =>
        obtain ⟨manifest, manifest_read, answered⟩ := bind_eq_ok_iff.1 answered
        obtain ⟨args, placed, answered⟩ := bind_eq_ok_iff.1 answered
        obtain rfl := Except.ok.inj answered
        exact ⟨manifest, magic, header_read, directory,
          ⟨_, _, section_found, mapError_eq_ok_iff.1 manifest_read⟩, placed, rfl⟩
    · rintro ⟨manifest, whole⟩
      obtain ⟨base, payload, found, manifest_read⟩ := whole.payload
      rw [Manifest.read] at manifest_read
      simp only [whole.header, whole.directory, found, manifest_read, mapError_ok, whole.args,
        ok_bind]
      exact congrArg Except.ok whole.rest.symm

/-! ### What is selected is enough -/

section Selected

variable {image : Image} {a b : Bytes}

theorem agreesOn_payload (agrees : ∀ range ∈ image.selected, a.AgreesOn b range.1 range.2)
    {kind : SectionKind} (consulted : kind ∈ image.consulted) (r : SectionRecord)
    (first : image.sections.find? (·.kind = kind) = some r) :
    a.AgreesOn b r.offset (r.offset + r.size) :=
  agrees _ (mem_selected_iff.2 (.inr (.inr ⟨kind, consulted, r, first, rfl⟩)))

/-- The connectivity table is consulted exactly where a topology was found. -/
theorem connectivity_mem_consulted_iff {found : Option (Nat × Bytes)}
    (topology : findSection a image.sections .memTopology = .ok found) :
    .connectivity ∈ image.consulted ↔ found.isSome := by
  have none_iff : findSection a image.sections .memTopology = .ok none ↔
      image.sections.find? (·.kind = .memTopology) = none := findSection_eq_none_iff
  rw [topology, Except.ok.injEq] at none_iff
  rw [Option.isSome_iff_ne_none, ne_eq, none_iff, ← ne_eq, ← Option.isSome_iff_ne_none]
  show _ ↔ (image.first? .memTopology).isSome
  unfold consulted
  split <;> simp [*]

theorem follows_placeArguments (args : ArgumentTable)
    (agrees : ∀ range ∈ image.selected, a.AgreesOn b range.1 range.2) :
    Follows (placeArguments a image.sections args) (placeArguments b image.sections args) := by
  unfold placeArguments
  have topology : Follows (findSection a image.sections .memTopology)
      (findSection b image.sections .memTopology) :=
    follows_findSection (agreesOn_payload agrees (by simp [consulted]))
  refine topology.bind fun found answered => ?_
  cases found with
  | none => exact .refl _
  | some found =>
    have connectivity : Follows (findSection a image.sections .connectivity)
        (findSection b image.sections .connectivity) :=
      follows_findSection (agreesOn_payload agrees
        ((connectivity_mem_consulted_iff answered).2 rfl))
    refine (Follows.refl (readMemoryBanks found.2 found.1)).bind fun banks _ => ?_
    exact connectivity.bind fun found _ => .refl _

theorem ReadFrom.of_agreesOn {manifest : Manifest} (whole : image.ReadFrom a manifest)
    (agrees : ∀ range ∈ image.selected, a.AgreesOn b range.1 range.2) :
    ReadFrom { image with bytes := b } b manifest := by
  have start := agrees _ (mem_selected_iff.2 (.inl rfl))
  have front := agrees _ (mem_selected_iff.2 (.inr (.inl rfl)))
  have above : Layout.header ≤ Layout.directory := by decide
  obtain ⟨base, payload, found, manifest_read⟩ := whole.payload
  have section_found : Follows (findSection a image.sections .embeddedMetadata)
      (findSection b image.sections .embeddedMetadata) :=
    follows_findSection (agreesOn_payload agrees (by simp [consulted]))
  exact {
    magic := hasMagic_of_agreesOn start whole.magic
    header := Header.follows_read front (Nat.le_add_right _ _) _ whole.header
    directory := follows_readDirectory front above (Nat.le_refl _) _ whole.directory
    payload := ⟨base, payload, section_found _ found, manifest_read⟩
    args := follows_placeArguments manifest.args agrees _ whole.args
    rest := congrArg (fun i : Image => { i with bytes := b }) whole.rest }

/-! ### What is selected is there -/

theorem size_of_hasMagic (magic : hasMagic a = true) : Layout.magicSize ≤ a.size :=
  (hasMagic_iff.1 magic).1

theorem size_of_read_header {header : Header} (answered : Header.read a = .ok header) :
    Layout.directory ≤ a.size := by
  obtain ⟨whole, found, -⟩ := bind_eq_ok_iff.1 answered
  exact (Region.bytes_eq_ok_iff.1 found).1

theorem size_of_readDirectory {count : Nat} {sections : List SectionRecord}
    (header : Layout.directory ≤ a.size) (answered : readDirectory a count = .ok sections) :
    Layout.directory + count * Layout.recordSize ≤ a.size := by
  obtain ⟨length, all⟩ := Region.records_eq_ok_iff.1 answered
  cases count with
  | zero => rwa [Nat.zero_mul, Nat.add_zero]
  | succ count =>
    obtain ⟨record, found, -⟩ := bind_eq_ok_iff.1 (all count (by omega))
    have last := (Region.bytes_eq_ok_iff.1 found).1
    rwa [Nat.succ_mul, ← Nat.add_assoc]

theorem size_of_findSection {directory : List SectionRecord} {kind : SectionKind}
    {found : Option (Nat × Bytes)} (answered : findSection a directory kind = .ok found)
    {r : SectionRecord} (first : directory.find? (·.kind = kind) = some r) :
    r.offset + r.size ≤ a.size := by
  cases part : a.part? r.offset r.size with
  | none => simp only [findSection, first, part, reduceCtorEq] at answered
  | some payload => exact (Bytes.part?_eq_some_iff.1 part).1

/-- Every section that is consulted was looked for with success. -/
theorem ReadFrom.consulted_found {manifest : Manifest} (whole : image.ReadFrom a manifest)
    {kind : SectionKind} (consulted : kind ∈ image.consulted) :
    ∃ found, findSection a image.sections kind = .ok found := by
  obtain ⟨base, payload, metadata, -⟩ := whole.payload
  obtain ⟨found, topology, placed⟩ := bind_eq_ok_iff.1 whole.args
  by_cases last : kind = .connectivity
  · subst last
    obtain ⟨found, rfl⟩ := Option.isSome_iff_exists.1
      ((connectivity_mem_consulted_iff topology).1 consulted)
    obtain ⟨banks, -, placed⟩ := bind_eq_ok_iff.1 placed
    obtain ⟨connections, answered, -⟩ := bind_eq_ok_iff.1 placed
    exact ⟨connections, answered⟩
  · have first : kind = .embeddedMetadata ∨ kind = .memTopology := by
      unfold Image.consulted at consulted
      split at consulted <;> simpa [last] using consulted
    rcases first with rfl | rfl
    · exact ⟨_, metadata⟩
    · exact ⟨_, topology⟩

/-- Every range that a successful reading selects lies inside what was read. -/
theorem ReadFrom.selected_inside {manifest : Manifest} (whole : image.ReadFrom a manifest) :
    ∀ range ∈ image.selected, range.2 ≤ a.size := by
  intro range mem
  rcases mem_selected_iff.1 mem with rfl | rfl | ⟨kind, consulted, r, first, rfl⟩
  · exact size_of_hasMagic whole.magic
  · exact size_of_readDirectory (size_of_read_header whole.header) whole.directory
  · obtain ⟨found, answered⟩ := whole.consulted_found consulted
    exact size_of_findSection answered first

end Selected

theorem read_same {a : Bytes} {image : Image} (answered : read a = .ok image) (b : Bytes)
    (agrees : ∀ range ∈ image.selected, a.AgreesOn b range.1 range.2) :
    read b = .ok { image with bytes := b } := by
  obtain ⟨manifest, whole⟩ := read_eq_ok_iff.1 answered
  exact read_eq_ok_iff.2 ⟨manifest, whole.of_agreesOn agrees⟩

theorem read_append {a : Bytes} {image : Image} (answered : read a = .ok image) (rest : Octets) :
    read (.ofList (a.toList ++ rest)) =
      .ok { image with bytes := .ofList (a.toList ++ rest) } := by
  obtain ⟨manifest, whole⟩ := read_eq_ok_iff.1 answered
  exact read_same answered _ fun range mem =>
    Bytes.agreesOn_append rest range.1 (whole.selected_inside range mem)

/-- The reading of an image depends only on what it selects. Every sequence of bytes that agrees
with the image on the selected ranges is read as the same image; so is the image with bytes put
behind it; and an image cut short is read as the same image if it is read at all. -/
theorem read_of_agreesOn_selected {a : Bytes} {image : Image} (answered : read a = .ok image) :
    (∀ b, (∀ range ∈ image.selected, a.AgreesOn b range.1 range.2) →
      read b = .ok { image with bytes := b }) ∧
    (∀ rest, read (.ofList (a.toList ++ rest)) =
      .ok { image with bytes := .ofList (a.toList ++ rest) }) ∧
    ∀ n shorter, read (a.take n) = .ok shorter → shorter = { image with bytes := a.take n } := by
  refine ⟨read_same answered, read_append answered, fun n shorter shorter_read => ?_⟩
  -- the image is the shorter one with the bytes that were cut off behind it
  have joined : Bytes.ofList ((a.take n).toList ++ a.toList.drop n) = a := by
    rw [Bytes.toList_take, List.take_append_drop, Bytes.ofList_toList]
  have again := read_append shorter_read (a.toList.drop n)
  rw [joined, answered] at again
  have read_from : shorter.bytes = a.take n := by
    obtain ⟨manifest, whole⟩ := read_eq_ok_iff.1 shorter_read
    exact congrArg Image.bytes whole.rest
  rw [Except.ok.inj again, ← read_from]

/-- The image for an emulated device, the same image with another length of its signature, and the
same image with a byte behind it. -/
theorem read_of_agreesOn_selected_twoBanks :
    let image := ImageSpec.twoBanks.assembled .hardwareEmulation ImageSpec.twoBanks.manifest
    let signed := image.bytes.overwrite Layout.signatureLength (.ofList (.ofInt32 64))
    let longer := Bytes.ofList (image.bytes.toList ++ [7])
    read image.bytes = .ok image ∧ read signed = .ok { image with bytes := signed } ∧
      read longer = .ok { image with bytes := longer } := by
  intro image signed longer
  have answered : read image.bytes = .ok image := ImageSpec.read_twoBanks
  obtain ⟨manifest, whole⟩ := read_eq_ok_iff.1 answered
  have other : ∀ range ∈ image.selected, image.bytes.AgreesOn signed range.1 range.2 := by
    intro range mem
    refine Bytes.agreesOn_overwrite ?_ (whole.selected_inside range mem)
    rcases mem_selected_iff.1 mem with rfl | rfl | ⟨kind, -, r, first, rfl⟩
    · exact .inr (by decide)
    · exact .inl (by decide)
    · obtain ⟨q, placed, rfl⟩ := List.mem_map.1 (List.mem_of_find?_eq_some first)
      have behind := ImageSpec.le_of_mem_placed placed
      have starts : Layout.signatureLength + 4 ≤
        ImageSpec.payloadStart ImageSpec.twoBanks.payloads.length := by decide
      exact .inl (Nat.le_trans starts behind)
  have all := read_of_agreesOn_selected answered
  exact ⟨answered, all.1 signed other, all.2.1 [7]⟩

end Image

end FpgaHost
