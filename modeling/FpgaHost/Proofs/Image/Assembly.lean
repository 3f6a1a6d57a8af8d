import FpgaHost.Image.Basic
import FpgaHost.Image.Spec
import FpgaHost.Proofs.Image.Fields

/-!
# Where things stand in an assembled image

An assembled image is a concatenation, so the place of every field in it is known, and the readers
of the header, of the directory and of the sections find what was put there. A directory record is
read back as the record of its payload (`ImageSpec.recordsOf`), and the section of a kind is the
first payload of that kind, wherever it came to stand (`findSection_present`).

Offsets and sizes are written in eight bytes. An image that is held in memory has a size below
`2 ^ 64`, so no offset in it is cut.
-/

namespace FpgaHost

/-! ### The header -/

/-- The header of an image for a mode that has a code. -/
def ImageSpec.header (s : ImageSpec) (mode : ImageMode) : Header where
  length := s.build.size
  timestamp := 0
  major := 2
  minor := 1
  patch := 0
  mode
  platformName := s.device
  sectionCount := s.payloads.length

theorem length_headerBytes (s : ImageSpec) (length sections : Nat) :
    (s.headerBytes length sections).length = Layout.headerSize := by
  simp only [ImageSpec.headerBytes, List.length_append, List.length_cons, List.length_nil,
    Octets.length_ofNat, Octets.length_zeros, Octets.length_terminated]
  rfl

open Layout.Header in
/-- The fields of a written header, each at its offset. -/
structure HeaderAt (s : ImageSpec) (size sections : Nat) (data : Octets) : Prop where
  length : HoldsAt data (Layout.header + length) (.ofNat 8 size)
  timestamp : HoldsAt data (Layout.header + timestamp) (.ofNat 8 0)
  patch : HoldsAt data (Layout.header + versionPatch) (.ofNat 2 0)
  major : HoldsAt data (Layout.header + versionMajor) [2]
  minor : HoldsAt data (Layout.header + versionMinor) [1]
  mode : HoldsAt data (Layout.header + mode) (.ofNat 2 s.mode.toNat)
  platformName : HoldsAt data (Layout.header + platformName)
    (.terminated platformNameSize (Utf8.encode s.device))
  sectionCount : HoldsAt data (Layout.header + sectionCount) (.ofNat 4 sections)

theorem headerAt_of_holdsAt {s : ImageSpec} {size sections : Nat} {data : Octets}
    (h : HoldsAt data Layout.header (s.headerBytes size sections)) :
    HeaderAt s size sections data := by
  have times : Octets.zeros 16 = .ofNat 8 0 ++ Octets.zeros 8 := rfl
  have versions : [2, 1] = [2] ++ [(1 : UInt8)] := rfl
  simp only [ImageSpec.headerBytes, times, versions, ← List.append_assoc, holdsAt_append,
    List.length_append, List.length_cons, List.length_nil, Octets.length_ofNat,
    Octets.length_zeros, Octets.length_terminated] at h
  obtain ⟨⟨⟨⟨⟨⟨⟨⟨⟨⟨⟨length, timestamp⟩, -⟩, patch⟩, major⟩, minor⟩, mode⟩, -⟩, name⟩, -⟩, count⟩,
    -⟩ := h
  exact ⟨length, timestamp, patch, major, minor, mode, name, count⟩

section Header

variable {s : ImageSpec} {image : Bytes} {size sections : Nat}

/-- Without a meaning of the mode, the header is refused for the mode. -/
theorem read_header_unknown
    (h : HoldsAt image.toList Layout.header (s.headerBytes size sections))
    (unknown : ImageMode.ofCode? s.mode = none) :
    Header.read image = .error (.unknownMode s.mode) := by
  have whole : Region.bytes ⟨image, 0⟩ "axlf_header" Layout.header Layout.headerSize = .ok _ :=
    Region.bytes_of_holdsAt h (length_headerBytes s size sections)
  have mode_lt : s.mode.toNat < 256 ^ 2 := s.mode.toNat_lt
  have code : Region.number ⟨image, 0⟩ "m_mode" (Layout.header + Layout.Header.mode) 2 = .ok _ :=
    Region.number_of_holdsAt (headerAt_of_holdsAt h).mode
  rw [Nat.mod_eq_of_lt mode_lt] at code
  simp only [Header.read, whole, code, bind, Except.bind, UInt16.ofNat_toNat, unknown]
  rfl

theorem read_header (h : HoldsAt image.toList Layout.header (s.headerBytes size sections))
    {mode : ImageMode} (known : ImageMode.ofCode? s.mode = some mode)
    (fits : FitsField Layout.Header.platformNameSize s.device) (bound : size < 2 ^ 64)
    (few : sections < 2 ^ 32) :
    Header.read image = .ok ⟨size, 0, 2, 1, 0, mode, s.device, sections⟩ := by
  have whole : Region.bytes ⟨image, 0⟩ "axlf_header" Layout.header Layout.headerSize = .ok _ :=
    Region.bytes_of_holdsAt h (length_headerBytes s size sections)
  have fields := headerAt_of_holdsAt h
  have mode_lt : s.mode.toNat < 256 ^ 2 := s.mode.toNat_lt
  have size_lt : size < 256 ^ 8 := bound
  have sections_lt : sections < 256 ^ 4 := few
  have code : Region.number ⟨image, 0⟩ "m_mode" (Layout.header + Layout.Header.mode) 2 = .ok _ :=
    Region.number_of_holdsAt fields.mode
  rw [Nat.mod_eq_of_lt mode_lt] at code
  simp only [Header.read, whole, code, bind, Except.bind, UInt16.ofNat_toNat, known, pure,
    Except.pure, Region.number_of_holdsAt fields.length, Region.number_of_holdsAt fields.timestamp,
    Region.number_of_holdsAt_byte fields.major, Region.number_of_holdsAt_byte fields.minor,
    Region.number_of_holdsAt fields.patch, Region.text_of_holdsAt fields.platformName fits,
    Region.number_of_holdsAt fields.sectionCount, Nat.mod_eq_of_lt size_lt,
    Nat.mod_eq_of_lt sections_lt]
  rfl

end Header

/-! ### The directory -/

namespace ImageSpec

/-- Payloads with the offsets at which they begin, the first of them at an offset. -/
def placed (offset : Nat) : List Payload → List (Nat × Payload)
  | [] => []
  | p :: rest => (offset, p) :: placed (offset + Octets.align8 p.data.length) rest

/-- The record that a payload gets in the directory. -/
def recordOf (placed : Nat × Payload) : SectionRecord :=
  ⟨placed.2.kind, placed.2.name, placed.1, placed.2.data.length⟩

/-- The records that payloads get in the directory, the first payload beginning at an offset. -/
def recordsOf (offset : Nat) (ps : List Payload) : List SectionRecord :=
  (placed offset ps).map recordOf

/-- What a directory record can give back of a payload: a kind with a code of its own and a name
that fits. -/
structure Payload.Recorded (p : Payload) : Prop where
  kind : SectionKind.ofCode p.kind.code = p.kind
  name : FitsField Layout.Record.nameSize p.name

theorem length_placed (offset : Nat) (ps : List Payload) :
    (placed offset ps).length = ps.length := by
  induction ps generalizing offset with
  | nil => rfl
  | cons p rest ih => rw [placed, List.length_cons, List.length_cons, ih]

theorem directoryRecords_eq_flatMap (offset : Nat) (ps : List Payload) :
    directoryRecords offset ps = (placed offset ps).flatMap fun q => directoryRecord q.1 q.2 := by
  induction ps generalizing offset with
  | nil => rfl
  | cons p rest ih => rw [directoryRecords, placed, List.flatMap_cons, ih]

theorem length_directoryRecord (offset : Nat) (p : Payload) :
    (directoryRecord offset p).length = Layout.recordSize := by
  simp only [directoryRecord, List.length_append, Octets.length_ofNat, Octets.length_zeros,
    Octets.length_terminated]
  rfl

theorem length_directoryRecords (offset : Nat) (ps : List Payload) :
    (directoryRecords offset ps).length = ps.length * Layout.recordSize := by
  rw [directoryRecords_eq_flatMap, length_flatMap_const fun q _ => length_directoryRecord q.1 q.2,
    length_placed]

/-- Every payload lies within the bytes of all of them. -/
theorem placed_inside {offset : Nat} {ps : List Payload} {q : Nat × Payload}
    (mem : q ∈ placed offset ps) :
    q.2 ∈ ps ∧ q.1 + q.2.data.length ≤ offset + (payloadBytes ps).length := by
  induction ps generalizing offset with
  | nil => contradiction
  | cons p rest ih =>
    have room := Octets.le_align8 p.data.length
    rw [payloadBytes, List.flatMap_cons, List.length_append, Octets.length_padded8]
    rcases List.mem_cons.1 mem with rfl | mem
    · exact ⟨List.mem_cons_self, by simp only; omega⟩
    · obtain ⟨found, bound⟩ := ih mem
      rw [payloadBytes] at bound
      exact ⟨List.mem_cons_of_mem p found, by omega⟩

/-- No payload begins before all of them do. -/
theorem le_of_mem_placed {offset : Nat} {ps : List Payload} {q : Nat × Payload}
    (mem : q ∈ placed offset ps) : offset ≤ q.1 := by
  induction ps generalizing offset with
  | nil => contradiction
  | cons p rest ih =>
    rcases List.mem_cons.1 mem with rfl | mem
    · exact Nat.le_refl offset
    · exact Nat.le_trans (Nat.le_add_right _ _) (ih mem)

end ImageSpec

open ImageSpec

theorem read_directoryRecord {image : Bytes} {position offset : Nat} {p : Payload}
    (h : HoldsAt image.toList (Layout.directory + position * Layout.recordSize)
      (directoryRecord offset p))
    (recorded : p.Recorded) (bound : offset + p.data.length < 2 ^ 64) :
    SectionRecord.read image position = .ok (recordOf (offset, p)) := by
  have whole : Region.bytes ⟨image, 0⟩ "axlf_section_header"
      (Layout.directory + position * Layout.recordSize) Layout.recordSize = .ok _ :=
    Region.bytes_of_holdsAt h (length_directoryRecord offset p)
  have offset_lt : offset < 256 ^ 8 := by omega
  have size_lt : p.data.length < 256 ^ 8 := by omega
  have code_lt : p.kind.code.toNat < 256 ^ 4 := p.kind.code.toNat_lt
  simp only [directoryRecord, holdsAt_append, List.length_append, Octets.length_ofNat,
    Octets.length_zeros, Octets.length_terminated] at h
  obtain ⟨⟨⟨⟨code, name⟩, -⟩, start⟩, size⟩ := h
  -- the offsets add up to those of the layout
  have code_at : HoldsAt image.toList
      (Layout.directory + position * Layout.recordSize + Layout.Record.kind) _ := code
  have name_at : HoldsAt image.toList
      (Layout.directory + position * Layout.recordSize + Layout.Record.name) _ := name
  have start_at : HoldsAt image.toList
      (Layout.directory + position * Layout.recordSize + Layout.Record.offset) _ := start
  have size_at : HoldsAt image.toList
      (Layout.directory + position * Layout.recordSize + Layout.Record.size) _ := size
  simp only [SectionRecord.read, whole, bind, Except.bind, pure, Except.pure,
    Region.number_of_holdsAt code_at, Region.text_of_holdsAt name_at recorded.name,
    Region.number_of_holdsAt start_at, Region.number_of_holdsAt size_at,
    Nat.mod_eq_of_lt offset_lt, Nat.mod_eq_of_lt size_lt, Nat.mod_eq_of_lt code_lt,
    UInt32.ofNat_toNat, recorded.kind, recordOf]

theorem readDirectory_of_holdsAt {image : Bytes} {offset : Nat} {ps : List Payload}
    (h : HoldsAt image.toList Layout.directory (directoryRecords offset ps))
    (recorded : ∀ p ∈ ps, p.Recorded) (bound : offset + (payloadBytes ps).length < 2 ^ 64) :
    readDirectory image ps.length = .ok (recordsOf offset ps) := by
  rw [directoryRecords_eq_flatMap] at h
  rw [readDirectory, ← length_placed offset ps]
  refine records_of_holdsAt h (fun q _ => length_directoryRecord q.1 q.2) fun k inside record => ?_
  obtain ⟨mem, below⟩ := placed_inside (List.getElem_mem inside)
  exact read_directoryRecord record (recorded _ mem) (Nat.lt_of_le_of_lt below bound)

/-! ### The sections -/

theorem findSection_absent {image : Bytes} {offset : Nat} {ps : List Payload} {kind : SectionKind}
    (absent : ps.find? (·.kind = kind) = none) :
    findSection image (recordsOf offset ps) kind = .ok none := by
  have none : (recordsOf offset ps).find? (·.kind = kind) = none := by
    rw [List.find?_eq_none] at absent ⊢
    intro record mem
    obtain ⟨q, placed, rfl⟩ := List.mem_map.1 mem
    exact absent q.2 (placed_inside placed).1
  rw [findSection, none]

/-- The section of a kind is the first payload of the kind, wherever it stands. -/
theorem findSection_present {image : Bytes} {offset : Nat} {ps : List Payload}
    {kind : SectionKind} {p : Payload} (body : HoldsAt image.toList offset (payloadBytes ps))
    (present : ps.find? (·.kind = kind) = some p) :
    ∃ base, findSection image (recordsOf offset ps) kind = .ok (some (base, .ofList p.data)) := by
  induction ps generalizing offset with
  | nil => simp at present
  | cons q rest ih =>
    rw [payloadBytes, List.flatMap_cons, holdsAt_append, Octets.length_padded8] at body
    obtain ⟨first, later⟩ := body
    by_cases same : q.kind = kind
    · obtain rfl : q = p := by simpa [same] using present
      have data := part?_of_holdsAt (holdsAt_append.1 first).1
      refine ⟨offset, ?_⟩
      simp only [findSection, recordsOf, placed, List.map_cons, recordOf, List.find?_cons, same,
        decide_true, data]
    · obtain ⟨base, found⟩ := ih later (by simpa [same] using present)
      refine ⟨base, ?_⟩
      rw [← found]
      simp only [findSection, recordsOf, placed, List.map_cons, recordOf, List.find?_cons, same,
        decide_false]

/-! ### The image as a whole -/

namespace ImageSpec

/-- The directory ends before the payloads begin. -/
theorem directory_le_payloadStart (records : Nat) :
    Layout.directory + records * Layout.recordSize ≤ payloadStart records := by
  have room : records * Layout.recordSize ≤ max records 1 * Layout.recordSize :=
    Nat.mul_le_mul_right _ (Nat.le_max_left records 1)
  exact Nat.le_trans (Nat.add_le_add_left room _) (Octets.le_align8 _)

theorem length_preamble : preamble.length = Layout.header := by
  simp only [preamble, List.length_append, Octets.length_zeros, Octets.ofInt32,
    Octets.length_ofNat]
  rfl

/-- Where the parts of an image stand. -/
structure BuiltAt (s : ImageSpec) (image : Bytes) : Prop where
  /-- The magic bytes begin the image. -/
  magic : HoldsAt image.toList 0 Layout.magic
  /-- The header stands behind the preamble. -/
  header : HoldsAt image.toList Layout.header (s.headerBytes image.size s.payloads.length)
  /-- The directory stands behind the header. -/
  directory : HoldsAt image.toList Layout.directory
    (directoryRecords (payloadStart s.payloads.length) s.payloads)
  /-- The payloads end the image. -/
  body : HoldsAt image.toList (payloadStart s.payloads.length) (payloadBytes s.payloads)
  /-- Nothing stands behind them. -/
  size : image.size = payloadStart s.payloads.length + (payloadBytes s.payloads).length

theorem builtAt_build (s : ImageSpec) : BuiltAt s s.build := by
  have room := directory_le_payloadStart s.payloads.length
  have pad : Layout.directory + s.payloads.length * Layout.recordSize +
      (payloadStart s.payloads.length - Layout.directory -
        s.payloads.length * Layout.recordSize) = payloadStart s.payloads.length := by omega
  have ends : Layout.header + Layout.headerSize = Layout.directory := rfl
  have size : s.build.size =
      payloadStart s.payloads.length + (payloadBytes s.payloads).length := by
    rw [build, Bytes.size_ofList]
    simp only [octets, List.length_append, length_preamble, length_headerBytes,
      length_directoryRecords, Octets.length_zeros, ends, pad]
  have parts : HoldsAt s.build.toList 0 s.octets := by
    rw [build, Bytes.toList_ofList]
    exact HoldsAt.whole s.octets
  simp only [octets, holdsAt_append, List.length_append, length_preamble, length_headerBytes,
    length_directoryRecords, Octets.length_zeros, Nat.zero_add, ends, pad] at parts
  obtain ⟨⟨⟨⟨preamble, header⟩, directory⟩, -⟩, body⟩ := parts
  rw [ImageSpec.preamble, List.append_assoc, holdsAt_append] at preamble
  rw [← size] at header
  exact ⟨preamble.1, header, directory, body, size⟩

theorem length_payloads_le (s : ImageSpec) : s.payloads.length ≤ 3 := by
  unfold payloads
  split <;> split <;> split <;> simp

theorem recorded_of_mem_payloads {s : ImageSpec} {p : Payload} (mem : p ∈ s.payloads) :
    p.Recorded := by
  have manifest : FitsField Layout.Record.nameSize "metadata" := ⟨by decide, by decide⟩
  have topology : FitsField Layout.Record.nameSize "mem_topology" := ⟨by decide, by decide⟩
  have connectivity : FitsField Layout.Record.nameSize "connectivity" := ⟨by decide, by decide⟩
  unfold payloads at mem
  rcases List.mem_append.1 mem with mem | mem
  · rcases List.mem_append.1 mem with mem | mem
    · split at mem
      · obtain rfl := List.mem_singleton.1 mem
        exact ⟨rfl, manifest⟩
      · contradiction
    · split at mem
      · contradiction
      · obtain rfl := List.mem_singleton.1 mem
        exact ⟨rfl, topology⟩
  · split at mem
    · contradiction
    · obtain rfl := List.mem_singleton.1 mem
      exact ⟨rfl, connectivity⟩

theorem hasMagic_build (s : ImageSpec) : hasMagic s.build = true := by
  have part := part?_of_holdsAt (builtAt_build s).magic
  rw [show Layout.magic.length = Layout.magicSize from rfl] at part
  rw [hasMagic, part, Option.any_some, Bytes.toList_ofList, beq_self_eq_true]

theorem read_header_build_unknown {s : ImageSpec} (unknown : ImageMode.ofCode? s.mode = none) :
    Header.read s.build = .error (.unknownMode s.mode) :=
  read_header_unknown (builtAt_build s).header unknown

theorem read_header_build {s : ImageSpec} {mode : ImageMode}
    (known : ImageMode.ofCode? s.mode = some mode)
    (device : FitsField Layout.Header.platformNameSize s.device)
    (bound : s.build.size < 2 ^ 64) : Header.read s.build = .ok (s.header mode) := by
  have few := length_payloads_le s
  exact read_header (builtAt_build s).header known device bound (by omega)

/-- The directory of an image: the records of its payloads. -/
def directory (s : ImageSpec) : List SectionRecord :=
  recordsOf (payloadStart s.payloads.length) s.payloads

theorem readDirectory_build {s : ImageSpec} (bound : s.build.size < 2 ^ 64) :
    readDirectory s.build s.payloads.length = .ok s.directory := by
  have built := builtAt_build s
  rw [built.size] at bound
  exact readDirectory_of_holdsAt built.directory (fun _ => recorded_of_mem_payloads) bound

end ImageSpec

end FpgaHost
