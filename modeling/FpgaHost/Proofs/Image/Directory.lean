import FpgaHost.Proofs.Image.Slots

/-!
# Directory and lookup

The directory is a table without a count of its own: the number of records is told by the header,
and nothing in the directory bounds it. It is read exactly if the image holds the last record.

A section is looked up by its kind. Only the first record of the kind counts: its range is checked
against the image as a sum of two numbers without a bound, and if it does not lie inside the image,
no later record of the kind takes its place.
-/

namespace FpgaHost

/-! ### Records -/

/-- What the bytes of a directory record say. -/
def SectionRecord.ofSlot (slot : Octets) : SectionRecord where
  kind := .ofCode (.ofNat (slot.field Layout.Record.kind 4).toNat)
  name := Utf8.decodeLossy (slot.field Layout.Record.name Layout.Record.nameSize).beforeZero
  offset := (slot.field Layout.Record.offset 8).toNat
  size := (slot.field Layout.Record.size 8).toNat

/-- The slots of the directory. A record is checked as a whole. -/
def directorySlots : SlotFormat SectionRecord where
  start := Layout.directory
  width := Layout.recordSize
  spans := [⟨"axlf_section_header", 0, Layout.recordSize⟩]
  decode _ := .ofSlot

theorem directorySlots_sound : directorySlots.Sound := ⟨by decide, by decide⟩

theorem reads_record (image : Bytes) :
    directorySlots.Reads ⟨image, 0⟩ (SectionRecord.read image) := by
  refine SlotFormat.reads_of_whole directorySlots_sound rfl (fun position => rfl)
    fun position fits => ?_
  have inside {offset width : Nat} (within : offset + width ≤ Layout.recordSize) :
      Layout.directory + position * Layout.recordSize + offset + width ≤
        (Region.data ⟨image, 0⟩).size := fits.inside within
  simp (disch := exact inside (by decide)) only [Region.number_of_fits, Region.text_of_fits,
    ok_bind]
  simp (disch := decide) only [SlotFormat.record, SlotFormat.offsetOf, directorySlots,
    SectionRecord.ofSlot, Octets.field_field]
  rfl

theorem readsTable_directory (image : Bytes) (count : Nat) :
    directorySlots.ReadsTable ⟨image, 0⟩ count (readDirectory image count) :=
  SlotFormat.readsTable (reads_record image) directorySlots_sound

/-! ### Sections -/

theorem findSection_of_absent {image : Bytes} {directory : List SectionRecord} {kind : SectionKind}
    (absent : ∀ r ∈ directory, r.kind ≠ kind) : findSection image directory kind = .ok none := by
  have none : directory.find? (·.kind = kind) = none := by
    simpa [List.find?_eq_none] using absent
  rw [findSection, none]

theorem findSection_of_first {image : Bytes} {before after : List SectionRecord}
    {r : SectionRecord} {kind : SectionKind} (others : ∀ b ∈ before, b.kind ≠ kind)
    (same : r.kind = kind) :
    findSection image (before ++ r :: after) kind =
      if r.offset + r.size ≤ image.size then
        .ok (some (r.offset, .ofList (image.toList.field r.offset r.size)))
      else .error (.sectionOutOfBounds kind r.offset r.size image.size) := by
  have first : (before ++ r :: after).find? (·.kind = kind) = some r := by
    rw [List.find?_eq_some_iff_append]
    exact ⟨decide_eq_true same, before, after, rfl, by simpa using others⟩
  rw [findSection, first]
  by_cases inside : r.offset + r.size ≤ image.size
  · have part : image.part? r.offset r.size =
        some (.ofList (image.toList.field r.offset r.size)) := by
      rw [Bytes.part?_eq_some_iff, Bytes.toList_ofList]
      exact ⟨inside, rfl⟩
    simp only [part, if_pos inside]
  · simp only [Bytes.part?_eq_none_iff.2 (Nat.lt_of_not_le inside), if_neg inside]

/-! ### The directory and its sections -/

/-- A directory is read exactly if the image holds its last record, and then as its records in
order. A section of a kind is what the first record of the kind says, or the error that the range of
this record is; there is none exactly if there is no such record. -/
theorem directory_lookup (image : Bytes) :
    (∀ count,
      ((∃ records, readDirectory image count = .ok records) ↔
        count = 0 ∨ 456 + 40 * count ≤ image.size) ∧
      directorySlots.ReadsTable ⟨image, 0⟩ count (readDirectory image count)) ∧
    ∀ directory kind,
      ((∀ r ∈ directory, r.kind ≠ kind) → findSection image directory kind = .ok none) ∧
      ∀ before r after, directory = before ++ r :: after → (∀ b ∈ before, b.kind ≠ kind) →
        r.kind = kind →
        findSection image directory kind =
          if r.offset + r.size ≤ image.size then
            .ok (some (r.offset, .ofList (image.toList.field r.offset r.size)))
          else .error (.sectionOutOfBounds kind r.offset r.size image.size) := by
  refine ⟨fun count => ?_, fun directory kind => ⟨findSection_of_absent, ?_⟩⟩
  · have table := readsTable_directory image count
    refine ⟨table.exists_ok_iff.trans ?_, table⟩
    simp only [directorySlots, Layout.directory, Layout.header, Layout.headerSize,
      Layout.recordSize, Nat.reduceAdd, Nat.mul_comm]
  · rintro before r after rfl others same
    exact findSection_of_first others same

/-- A record whose range goes on behind the last address is refused, though a later one of its kind
is sound. -/
theorem directory_lookup_wrapped :
    findSection (.ofList [1, 2, 3, 4])
        [⟨.connectivity, "first", 0, 4⟩, ⟨.memTopology, "wrapped", Region.lastAddress, 2⟩,
          ⟨.memTopology, "sound", 0, 4⟩] .memTopology =
      .error (.sectionOutOfBounds .memTopology Region.lastAddress 2 4) := by
  obtain ⟨-, lookup⟩ := directory_lookup (.ofList [1, 2, 3, 4])
  exact (lookup _ .memTopology).2 [⟨.connectivity, "first", 0, 4⟩]
    ⟨.memTopology, "wrapped", Region.lastAddress, 2⟩ [⟨.memTopology, "sound", 0, 4⟩] rfl
    (by decide) rfl

end FpgaHost
