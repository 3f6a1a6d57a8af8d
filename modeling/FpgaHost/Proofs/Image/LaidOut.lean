import FpgaHost.Proofs.Image.Filling
import FpgaHost.Proofs.Image.RoundTrip

/-!
# Where an image has its parts

An assembled image can be taken apart by anyone who knows its directory: payloads begin at multiples
of eight behind the directory, one after the other, none reaches into the next one or behind the
image, and what stands in each range is the payload and nothing else. Text fields end in a zero
byte, however long the text is that they were given.

Main statement: `ImageSpec.build_laidOut`.
-/

namespace FpgaHost

/-! ### Single bytes -/

/-- The bytes of a field are those of the data, from its offset on. -/
theorem HoldsAt.getElem? {data field : Octets} {offset : Nat} (h : HoldsAt data offset field)
    {i : Nat} (inside : i < field.length) : data[offset + i]? = field[i]? := by
  rw [← h.same, List.getElem?_take_of_lt inside, List.getElem?_drop]

/-- A text field ends in a zero byte, whatever it was given. -/
theorem getElem?_terminated {width : Nat} (content : Octets) (positive : 0 < width) :
    (Octets.terminated width content)[width - 1]? = some 0 := by
  have cut : (content.take (width - 1)).length ≤ width - 1 := List.length_take_le ..
  rw [Octets.terminated, List.getElem?_append_right cut, Octets.zeros,
    List.getElem?_replicate_of_lt (by omega)]

/-- So does the data in which the field stands. -/
theorem HoldsAt.getElem?_last {data content : Octets} {offset width : Nat}
    (h : HoldsAt data offset (Octets.terminated width content)) (positive : 0 < width) :
    data[offset + (width - 1)]? = some 0 := by
  rw [h.getElem? (by rw [Octets.length_terminated]; omega), getElem?_terminated content positive]

namespace ImageSpec

/-! ### Placed payloads -/

section Placed

variable {offset : Nat} {ps : List Payload}

theorem placed_mod (aligned : offset % 8 = 0) : ∀ q ∈ placed offset ps, q.1 % 8 = 0 := by
  induction ps generalizing offset with
  | nil => simp [placed]
  | cons p rest ih =>
    have padded := Octets.align8_mod p.data.length
    exact List.forall_mem_cons.2 ⟨aligned, ih (by omega)⟩

/-- No payload reaches into a later one. -/
theorem placed_pairwise :
    (placed offset ps).Pairwise fun a b => a.1 + a.2.data.length ≤ b.1 := by
  induction ps generalizing offset with
  | nil => exact .nil
  | cons p rest ih =>
    refine .cons (fun b mem => ?_) ih
    have behind := le_of_mem_placed mem
    have room := Octets.le_align8 p.data.length
    show offset + p.data.length ≤ b.1
    omega

theorem length_payloadBytes_mod (ps : List Payload) : (payloadBytes ps).length % 8 = 0 := by
  induction ps with
  | nil => rfl
  | cons p rest ih =>
    have padded := Octets.align8_mod p.data.length
    rw [payloadBytes_cons, List.length_append, Octets.length_padded8]
    omega

/-- Where payloads stand, each of them stands at its own offset. -/
theorem holdsAt_placed {data : Octets} (body : HoldsAt data offset (payloadBytes ps)) :
    ∀ q ∈ placed offset ps, HoldsAt data q.1 q.2.data := by
  induction ps generalizing offset with
  | nil => simp [placed]
  | cons p rest ih =>
    rw [payloadBytes_cons, holdsAt_append, Octets.length_padded8] at body
    obtain ⟨first, later⟩ := body
    rw [Octets.padded8, holdsAt_append] at first
    exact List.forall_mem_cons.2 ⟨first.1, ih later⟩

end Placed

/-! ### The image -/

/-- The payloads of an image and the offsets at which they begin, in directory order. -/
def sections (s : ImageSpec) : List (Nat × Payload) :=
  placed (payloadStart s.payloads.length) s.payloads

/-- How the parts of an image stand to one another. -/
structure LaidOut (s : ImageSpec) (image : Bytes) : Prop where
  /-- The length is a multiple of eight. -/
  size_mod : image.size % 8 = 0
  /-- It is the length in the header. -/
  length : HoldsAt image.toList (Layout.header + Layout.Header.length) (.ofNat 8 image.size)
  /-- The number of sections in the header is that of the payloads. -/
  sectionCount : HoldsAt image.toList (Layout.header + Layout.Header.sectionCount)
    (.ofNat 4 s.payloads.length)
  /-- There is a place for every payload, in order. -/
  payloads : s.sections.map Prod.snd = s.payloads
  /-- Payloads begin at multiples of eight. -/
  start_mod : ∀ q ∈ s.sections, q.1 % 8 = 0
  /-- They begin behind the directory, which has room for one record at least. -/
  start_le : ∀ q ∈ s.sections, 456 + 40 * max 1 s.payloads.length ≤ q.1
  /-- No payload reaches into a later one. -/
  apart : s.sections.Pairwise fun a b => a.1 + a.2.data.length ≤ b.1
  /-- No payload reaches behind the image. -/
  inside : ∀ q ∈ s.sections, q.1 + q.2.data.length ≤ image.size
  /-- What stands where a payload is to stand is the payload. -/
  payload : ∀ q ∈ s.sections, HoldsAt image.toList q.1 q.2.data
  /-- The directory says, record by record, where the payloads stand. -/
  record : ∀ i, (h : i < s.sections.length) → HoldsAt image.toList
    (Layout.directory + i * Layout.recordSize) (directoryRecord s.sections[i].1 s.sections[i].2)
  /-- The name of the device ends in a zero byte. -/
  deviceEnd : image.toList[Layout.header + Layout.Header.platformName +
    (Layout.Header.platformNameSize - 1)]? = some 0
  /-- So does the name of every section. -/
  nameEnd : ∀ i < s.sections.length, image.toList[Layout.directory + i * Layout.recordSize +
    Layout.Record.name + (Layout.Record.nameSize - 1)]? = some 0
  /-- So does the tag of every bank. -/
  tagEnd : ∀ i < s.banks.length, s.topologyPayload[Layout.Topology.records +
    i * Layout.Topology.recordSize + Layout.Topology.tag + (Layout.Topology.tagSize - 1)]? = some 0

theorem map_snd_placed (offset : Nat) (ps : List Payload) :
    (placed offset ps).map Prod.snd = ps := by
  induction ps generalizing offset with
  | nil => rfl
  | cons p rest ih => rw [placed, List.map_cons, ih]

/-- Where the record of a directory stands. -/
theorem directoryRecord_at {s : ImageSpec} {image : Bytes} (built : BuiltAt s image) (i : Nat)
    (h : i < s.sections.length) : HoldsAt image.toList
      (Layout.directory + i * Layout.recordSize)
      (directoryRecord s.sections[i].1 s.sections[i].2) := by
  have directory := built.directory
  rw [directoryRecords_eq_flatMap] at directory
  exact holdsAt_getElem directory (fun q _ => length_directoryRecord q.1 q.2) i h

theorem getElem?_nameEnd {data : Octets} {start offset : Nat} {p : Payload}
    (h : HoldsAt data start (directoryRecord offset p)) :
    data[start + Layout.Record.name + (Layout.Record.nameSize - 1)]? = some 0 := by
  simp only [directoryRecord, holdsAt_append, Octets.length_ofNat] at h
  obtain ⟨⟨⟨⟨-, name⟩, -⟩, -⟩, -⟩ := h
  exact name.getElem?_last (by decide)

theorem getElem?_tagEnd {data : Octets} {start position : Nat} {b : BankSpec}
    (h : HoldsAt data start (bankRecord position b)) :
    data[start + Layout.Topology.tag + (Layout.Topology.tagSize - 1)]? = some 0 := by
  simp only [bankRecord, holdsAt_append, List.length_append, List.length_cons, List.length_nil,
    Octets.length_ofNat, Octets.length_zeros] at h
  have tag : HoldsAt data (start + Layout.Topology.tag) (Octets.terminated _ _) := h.2
  exact tag.getElem?_last (by decide)

/-- The record of every bank stands in the topology. -/
theorem bankRecord_at (s : ImageSpec) (i : Nat) (h : i < s.banks.length) :
    HoldsAt s.topologyPayload (Layout.Topology.records + i * Layout.Topology.recordSize)
      (bankRecord i s.banks[i]) := by
  have payload := HoldsAt.whole s.topologyPayload
  conv at payload => arg 3; rw [topologyPayload, bankRecords_eq_flatMap]
  simp only [holdsAt_append, List.length_append, Octets.length_ofNat, Octets.length_zeros,
    Nat.zero_add] at payload
  have zipped : i < s.banks.zipIdx.length := by rwa [List.length_zipIdx]
  have item : s.banks.zipIdx[i] = (s.banks[i], i) := by simp
  have record := holdsAt_getElem payload.2 (fun b _ => length_bankRecord b.2 b.1) i zipped
  rwa [item] at record

theorem directory_le_start {s : ImageSpec} {q : Nat × Payload} (mem : q ∈ s.sections) :
    456 + 40 * max 1 s.payloads.length ≤ q.1 := by
  have start := le_of_mem_placed mem
  have room := Octets.le_align8
    (Layout.directory + max s.payloads.length 1 * Layout.recordSize)
  rw [← payloadStart] at room
  have directory : Layout.directory + max s.payloads.length 1 * Layout.recordSize =
      456 + 40 * max 1 s.payloads.length := by
    rw [Nat.max_comm, Nat.mul_comm]
    rfl
  omega

theorem laidOut_build (s : ImageSpec) : s.LaidOut s.build := by
  have built := builtAt_build s
  have header := headerAt_of_holdsAt built.header
  have start_mod := payloadStart_mod s.payloads.length
  have body_mod := length_payloadBytes_mod s.payloads
  have size := built.size
  exact
    { size_mod := by omega
      length := header.length
      sectionCount := header.sectionCount
      payloads := map_snd_placed _ _
      start_mod := placed_mod start_mod
      start_le := fun _ => directory_le_start
      apart := placed_pairwise
      inside := fun _ mem => size ▸ (placed_inside mem).2
      payload := holdsAt_placed built.body
      record := directoryRecord_at built
      deviceEnd := header.platformName.getElem?_last (by decide)
      nameEnd := fun i h => getElem?_nameEnd (directoryRecord_at built i h)
      tagEnd := fun i h => getElem?_tagEnd (bankRecord_at s i h) }

/-- Building an image writes nothing outside the image or outside the field that is written, and the
parts of the image stand apart, each where header and directory say. An image that a memory can hold
has the numbers for this in its header and its directory. -/
theorem build_laidOut (s : ImageSpec) :
    s.fillTopology? = some s.topologyPayload ∧ s.fill? = some s.build ∧ s.LaidOut s.build ∧
      (s.build.size < 2 ^ 64 →
        Region.number ⟨s.build, 0⟩ "m_length" (Layout.header + Layout.Header.length) 8 =
            .ok s.build.size ∧
          Region.number ⟨s.build, 0⟩ "m_numSections"
              (Layout.header + Layout.Header.sectionCount) 4 = .ok s.payloads.length ∧
          readDirectory s.build s.payloads.length = .ok (s.sections.map recordOf)) := by
  have laid_out := laidOut_build s
  refine ⟨fillTopology?_eq s, fill?_eq s, laid_out, fun bound => ?_⟩
  refine ⟨?_, ?_, readDirectory_build bound⟩
  · have size_lt : s.build.size < 256 ^ 8 := bound
    rw [Region.number_of_holdsAt laid_out.length, Nat.mod_eq_of_lt size_lt]
  · have few := length_payloads_le s
    rw [Region.number_of_holdsAt laid_out.sectionCount, Nat.mod_eq_of_lt (by omega)]

theorem build_laidOut_twoBanks :
    twoBanks.build.size < 2 ^ 64 ∧
      Region.number ⟨twoBanks.build, 0⟩ "m_numSections"
        (Layout.header + Layout.Header.sectionCount) 4 = .ok 3 := by
  obtain ⟨-, -, -, numbers⟩ := build_laidOut twoBanks
  exact ⟨fits_twoBanks.size, (numbers fits_twoBanks.size).2.1⟩

end ImageSpec

end FpgaHost
