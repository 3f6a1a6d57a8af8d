import FpgaHost.Proofs.Image.Faults

/-!
# Images that are cut

A field that is not there as a whole is reported with the place where it should begin, the bytes
that it takes and the bytes that are left of the region it is read from. Regions begin at different
places of the image, but the report speaks of the image: what is left are the bytes from the place
on up to where the region ends, and nothing if it ends before (`Region.Cut`). Every report of this
kind is true of its region. An image that is cut before its payloads begin is reported at the header
or at the record that the cut goes through (`Image.read_take`).

Offsets and lengths are words of eight bytes. A reader that adds them with a check, and names the
last address for a place behind it, reads what `Region.bytes` does (`bytesInWords_eq`).

Main statement: `Image.truncation_truthful`.
-/

namespace FpgaHost

/-! ### Reports -/

namespace Region

/-- Where a region ends in the image. -/
def stop (r : Region) : Nat := r.base + r.data.size

/-- What is reported of a field that is cut is true of the region it is read from. -/
structure Cut (r : Region) (offset needed available : Nat) : Prop where
  /-- The field does not begin before the region. -/
  begins : r.base ≤ offset
  /-- What is left is not enough. -/
  short : available < needed
  /-- What is left are the bytes from the offset on, up to the end of the region. -/
  left : offset ≤ r.stop → offset + available = r.stop
  /-- Nothing is left if the region ends before. -/
  nothing : r.stop < offset → available = 0

/-- The report for a field that a region does not hold is true. A place behind the last address is
behind the region as well. -/
theorem cut_of_short {r : Region} {offset len : Nat} (addressable : r.stop ≤ lastAddress)
    (wide : 0 < len) (short : r.data.size < offset + len) :
    r.Cut (r.place offset) len (r.data.size - offset) := by
  have ends : r.stop = r.base + r.data.size := rfl
  have named : r.place offset = min (r.base + offset) lastAddress := rfl
  exact ⟨by omega, by omega, fun _ => by omega, fun _ => by omega⟩

/-- A region is a range of the image. -/
structure LiesIn (r : Region) (data : Bytes) : Prop where
  /-- It ends where the image does or before. -/
  inside : r.stop ≤ data.size
  /-- It has the bytes of the image. -/
  same : r.data.toList = data.toList.field r.base r.data.size

end Region

namespace Image

variable {data : Bytes}

theorem liesIn_of_hasSection {kind : SectionKind} {base : Nat} {payload : Bytes}
    (found : HasSection data kind base payload) : Region.LiesIn ⟨payload, base⟩ data := by
  obtain ⟨sections, -, answered⟩ := found
  obtain ⟨r, -, rfl, part⟩ := findSection_eq_some_iff.1 answered
  have size := Bytes.size_of_part? part
  obtain ⟨inside, same⟩ := Bytes.part?_eq_some_iff.1 part
  exact ⟨by rw [Region.stop, size]; exact inside, by rw [size]; exact same⟩

/-- The regions that fields are read from are ranges of the image. -/
theorem liesIn_of_readsFrom {field : String} {r : Region} (reads : ReadsFrom data field r) :
    r.LiesIn data := by
  have whole : Region.LiesIn ⟨data, 0⟩ data :=
    ⟨Nat.le_of_eq (Nat.zero_add _), (List.take_of_length_le (Nat.le_refl _)).symm⟩
  cases reads with
  | header => exact whole
  | record => exact whole
  | bank found => exact liesIn_of_hasSection found
  | connection found => exact liesIn_of_hasSection found

/-- Every report of a field that is cut is true of the region that the field is read from. -/
theorem cut_of_read (addressable : data.size ≤ Region.lastAddress) {field : String}
    {offset needed available : Nat}
    (refused : read data = .error (.truncated field offset needed available)) :
    ∃ r, ReadsFrom data field r ∧ r.LiesIn data ∧ r.Cut offset needed available := by
  have magic : hasMagic data = true := by
    cases magic : hasMagic data with
    | true => rfl
    | false => simp [read_of_foreign magic] at refused
  cases failsOnly_read magic _ refused with
  | cut reads wide short =>
    have lies := liesIn_of_readsFrom reads
    exact ⟨_, reads, lies,
      Region.cut_of_short (Nat.le_trans lies.inside addressable) wide short⟩

/-! ### Images cut short -/

/-- The error for an image of which the first `n` bytes are left, the magic ones and more, but not
all of its directory. -/
def cutError (n : Nat) : ImageError :=
  if n < Layout.directory then
    .truncated "axlf_header" Layout.header Layout.headerSize (n - Layout.header)
  else
    let record := Layout.directory + (n - Layout.directory) / Layout.recordSize * Layout.recordSize
    .truncated "axlf_section_header" record Layout.recordSize (n - record)

/-- A directory that is cut is refused for the record that the cut goes through. -/
theorem readDirectory_of_cut {count : Nat} (addressable : data.size ≤ Region.lastAddress)
    (held : Layout.directory ≤ data.size)
    (cut : data.size < Layout.directory + count * Layout.recordSize) :
    readDirectory data count = .error (cutError data.size) := by
  have some : ¬(count = 0 ∨ directorySlots.start + count * directorySlots.width ≤ data.size) := by
    rintro (rfl | room)
    · omega
    · exact absurd room (Nat.not_le.2 cut)
  obtain ⟨i, -, before, e, missing, refused⟩ := (readsTable_directory data count).cut some
  obtain ⟨p, mem, short, rfl⟩ := SlotFormat.exists_span_of_missing missing
  obtain rfl := List.mem_singleton.1 mem
  -- the record begins inside the image and ends behind it
  have begins : Layout.directory + i * Layout.recordSize ≤ data.size := by
    cases i with
    | zero => simpa using held
    | succ i =>
      rw [Nat.succ_mul, ← Nat.add_assoc]
      exact before i (Nat.lt_succ_self i)
  have ends : data.size < Layout.directory + (i + 1) * Layout.recordSize := by
    rw [Nat.succ_mul, ← Nat.add_assoc]
    exact short
  have position : (data.size - Layout.directory) / Layout.recordSize = i :=
    Nat.div_eq_of_lt_le (by omega) (by omega)
  have place : Region.place ⟨data, 0⟩ (directorySlots.offsetOf i + 0) =
      Layout.directory + i * Layout.recordSize := by
    rw [Region.place, Nat.zero_add]
    exact Nat.min_eq_left (Nat.le_trans begins addressable)
  rw [refused, cutError, if_neg (Nat.not_lt.2 held)]
  simp only [position, SlotFormat.truncated, place]
  rfl

/-- The first bytes of a sequence are those of the sequence. -/
theorem agreesOn_take {n stop : Nat} (before : stop ≤ n) (inside : n ≤ data.size) (start : Nat) :
    data.AgreesOn (data.take n) start stop where
  inside := by
    rw [Bytes.size_take]
    omega
  same := fun i _ below => by
    rw [Bytes.toList_take, List.getElem?_take_of_lt (by omega)]

/-- An image that is cut in its header or in its directory is refused there, wherever the cut is. -/
theorem read_take {image : Image} (addressable : data.size ≤ Region.lastAddress)
    (answered : read data = .ok image) {n : Nat} (behind : Layout.magicSize ≤ n)
    (before : n < Layout.directory + image.header.sectionCount * Layout.recordSize) :
    read (data.take n) = .error (cutError n) := by
  obtain ⟨manifest, whole⟩ := read_eq_ok_iff.1 answered
  have front := size_of_readDirectory (size_of_read_header whole.header) whole.directory
  have inside : n ≤ data.size := by omega
  have size : (data.take n).size = n := by rw [Bytes.size_take, Nat.min_eq_left inside]
  have magic := hasMagic_of_agreesOn (agreesOn_take behind inside 0) whole.magic
  rw [read, readWith]
  simp only [magic, Bool.not_true, Bool.false_eq_true, if_false]
  by_cases held : Layout.directory ≤ n
  · have header := Header.follows_read (agreesOn_take (Nat.le_refl n) inside _) held _ whole.header
    have directory : readDirectory (data.take n) image.header.sectionCount =
        .error (cutError (data.take n).size) :=
      readDirectory_of_cut (by omega) (by omega) (by omega)
    simp only [header, ok_bind, directory, error_bind, size]
  · have short := Nat.lt_of_not_le held
    rw [Header.read_of_short (by omega), error_bind, cutError, if_pos short, size]
    rfl

end Image

/-! ### Words -/

/-- The sum of two words, if it is one. -/
def checkedSum? (a b : UInt64) : Option UInt64 := if a + b < a then none else some (a + b)

/-- The sum of two words, or the last word if it lies behind that. -/
def saturatedSum (a b : UInt64) : UInt64 := if a + b < a then .ofNat Region.lastAddress else a + b

/-- The difference of two words, or zero if it is negative. -/
def saturatedDifference (a b : UInt64) : UInt64 := if a < b then 0 else a - b

/-- A sum is less than a summand exactly if it is cut. -/
theorem add_lt_iff {a b : UInt64} : a + b < a ↔ 2 ^ 64 ≤ a.toNat + b.toNat := by
  have a_lt := a.toNat_lt
  have b_lt := b.toNat_lt
  rw [UInt64.lt_iff_toNat_lt, UInt64.toNat_add]
  omega

theorem toNat_saturatedSum (a b : UInt64) :
    (saturatedSum a b).toNat = min (a.toNat + b.toNat) Region.lastAddress := by
  have last : Region.lastAddress = 2 ^ 64 - 1 := rfl
  unfold saturatedSum
  split
  · rename_i beyond
    rw [add_lt_iff] at beyond
    rw [Nat.min_eq_right (by omega)]
    rfl
  · rename_i within
    rw [add_lt_iff] at within
    rw [UInt64.toNat_add]
    omega

theorem toNat_saturatedDifference (a b : UInt64) :
    (saturatedDifference a b).toNat = a.toNat - b.toNat := by
  unfold saturatedDifference
  split
  · rename_i less
    rw [UInt64.lt_iff_toNat_lt] at less
    rw [Nat.sub_eq_zero_of_le (Nat.le_of_lt less)]
    rfl
  · rename_i enough
    exact UInt64.toNat_sub_of_le a b (UInt64.not_lt.1 enough)

/-- The bytes from a start up to a stop, if the sequence has them. -/
def Bytes.slice? (data : Bytes) (start stop : Nat) : Option Bytes :=
  if start ≤ stop ∧ stop ≤ data.size then some ⟨data.packed.extract start stop⟩ else none

/-- The bytes of a field, found by words: the end of the field is a sum that is checked, and the
place that an error names is one that stops at the last address. -/
def bytesInWords (data : Bytes) (base : UInt64) (field : String) (offset len : UInt64) :
    Except ImageError Octets :=
  match (checkedSum? offset len).bind fun stop => data.slice? offset.toNat stop.toNat with
  | some part => .ok part.toList
  | none =>
    .error (.truncated field (saturatedSum base offset).toNat len.toNat
      (saturatedDifference (.ofNat data.size) offset).toNat)

section Words

variable {data : Bytes}

/-- A field whose end no word can say does not lie in a sequence whose size one can. -/
theorem slice?_eq_part? (addressable : data.size ≤ Region.lastAddress) (offset len : UInt64) :
    ((checkedSum? offset len).bind fun stop => data.slice? offset.toNat stop.toNat) =
      data.part? offset.toNat len.toNat := by
  have last : Region.lastAddress = 2 ^ 64 - 1 := rfl
  unfold checkedSum?
  split
  · rename_i beyond
    rw [add_lt_iff] at beyond
    exact (Bytes.part?_eq_none_iff.2 (by omega)).symm
  · rename_i within
    rw [add_lt_iff] at within
    have stop : (offset + len).toNat = offset.toNat + len.toNat := by
      rw [UInt64.toNat_add]
      omega
    rw [Option.bind_some, stop, Bytes.slice?, Bytes.part?]
    simp only [Nat.le_add_right, true_and]

/-- A field is the same by words and by numbers without a bound, and so is the error for it. -/
theorem bytesInWords_eq (addressable : data.size ≤ Region.lastAddress) (base : UInt64)
    (field : String) (offset len : UInt64) :
    bytesInWords data base field offset len =
      Region.bytes ⟨data, base.toNat⟩ field offset.toNat len.toNat := by
  have last : Region.lastAddress = 2 ^ 64 - 1 := rfl
  have size : (UInt64.ofNat data.size).toNat = data.size :=
    UInt64.toNat_ofNat_of_lt' (Nat.lt_of_le_of_lt addressable (by decide))
  rw [bytesInWords, slice?_eq_part? addressable, toNat_saturatedSum, toNat_saturatedDifference,
    size]
  rfl

end Words

/-! ### Truth of the reports -/

namespace Image

/-- What is reported of fields that are cut is true. A report about an image is true of the region
that the field is read from, the image for header and directory and the payload of the section for
the tables, and the region is a range of the image. Every image that is cut before its payloads
begin has such a report, for the header or for the record that the cut goes through. A field that is
found by words is there exactly if the sum of its offset and its length, without a bound, is at most
the size of the bytes, and then it is the bytes between; the readers of an image find it as well. -/
theorem truncation_truthful (data : Bytes) (addressable : data.size < 2 ^ 64) :
    (∀ field offset needed available,
      read data = .error (.truncated field offset needed available) →
        ∃ r, ReadsFrom data field r ∧ r.LiesIn data ∧ r.Cut offset needed available) ∧
    (∀ image, read data = .ok image → ∀ n, Layout.magicSize ≤ n →
      n < Layout.directory + image.header.sectionCount * Layout.recordSize →
        read (data.take n) = .error (cutError n)) ∧
    ∀ (base : UInt64) (field : String) (offset len : UInt64),
      (∀ part, bytesInWords data base field offset len = .ok part ↔
        offset.toNat + len.toNat ≤ data.size ∧
          part = data.toList.field offset.toNat len.toNat) ∧
      bytesInWords data base field offset len =
        Region.bytes ⟨data, base.toNat⟩ field offset.toNat len.toNat := by
  have last : data.size ≤ Region.lastAddress := Nat.le_sub_one_of_lt addressable
  refine ⟨fun _ _ _ _ => cut_of_read last, fun _ answered _ => read_take last answered,
    fun base field offset len => ⟨fun part => ?_, bytesInWords_eq last base field offset len⟩⟩
  rw [bytesInWords_eq last, Region.bytes_eq_ok_iff]
  rfl

/-- An image of which the magic bytes are left, one that is cut in its second record, and a field
whose end no word can say. -/
theorem truncation_truthful_twoBanks :
    let data := ImageSpec.twoBanks.build
    read (data.take 8) = .error (.truncated "axlf_header" 304 152 0) ∧
      read (data.take 500) = .error (.truncated "axlf_section_header" 496 40 4) ∧
      (∃ r, ReadsFrom (data.take 500) "axlf_section_header" r ∧ r.LiesIn (data.take 500) ∧
        r.Cut 496 40 4) ∧
      ∀ part, bytesInWords data 456 "overflow" 0xFFFFFFFFFFFFFFFF 2 ≠ .ok part := by
  intro data
  have addressable : data.size < 2 ^ 64 := ImageSpec.fits_twoBanks.size
  obtain ⟨-, shortened, words⟩ := truncation_truthful data addressable
  have cut (n : Nat) (behind : Layout.magicSize ≤ n) (before : n < 576) :
      read (data.take n) = .error (cutError n) :=
    shortened _ ImageSpec.read_twoBanks n behind before
  have second := cut 500 (by decide) (by decide)
  have size : (data.take 500).size < 2 ^ 64 := by
    rw [Bytes.size_take]
    omega
  obtain ⟨reports, -, -⟩ := truncation_truthful (data.take 500) size
  refine ⟨cut 8 (by decide) (by decide), second, reports _ _ _ _ second, fun part found => ?_⟩
  have fits := (((words 456 "overflow" 0xFFFFFFFFFFFFFFFF 2).1 part).1 found).1
  have behind : 2 ^ 64 ≤ (0xFFFFFFFFFFFFFFFF : UInt64).toNat + (2 : UInt64).toNat := by decide
  omega

end Image

end FpgaHost
