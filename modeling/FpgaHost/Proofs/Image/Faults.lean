import FpgaHost.Proofs.Image.Counted
import FpgaHost.Proofs.Image.Directory
import FpgaHost.Proofs.Image.Selection

/-!
# What may be wrong with an image

Bytes that do not begin with the magic ones are of another format. All others are taken for an
image, and if that cannot be read then the error names something that is wrong with it
(`Image.Fault`): a field that is not there as a whole, a mode without a meaning, a section that is
missing or lies outside, a negative number of records, or the manifest. What the error says of the
image is so.

Main statements: `Image.read_of_foreign`, `Image.failsOnly_read`.
-/

namespace FpgaHost

/-! ### Tables -/

namespace SlotFormat

variable {α : Type} {f : SlotFormat α} {r : Region} {P : ImageError → Prop}

/-- The error for a record is the error for one of its parts that the region does not hold. -/
theorem exists_span_of_missing {position : Nat} {e : ImageError}
    (missing : f.missing? r position = some e) :
    ∃ p ∈ f.spans, r.data.size < f.offsetOf position + p.offset + p.width ∧
      f.truncated r position p = e := by
  obtain ⟨p, found, rfl⟩ := Option.map_eq_some_iff.1 missing
  have short := List.find?_some found
  exact ⟨p, List.mem_of_find?_eq_some found, of_decide_eq_true short, rfl⟩

/-- Reading a table fails only for a part of a record. -/
theorem ReadsTable.failsOnly {count : Nat} {outcome : Except ImageError (List α)}
    (table : f.ReadsTable r count outcome)
    (cut : ∀ position, ∀ p ∈ f.spans, r.data.size < f.offsetOf position + p.offset + p.width →
      P (f.truncated r position p)) : FailsOnly P outcome := by
  rintro e rfl
  by_cases room : count = 0 ∨ f.start + count * f.width ≤ r.data.size
  · have accepted := table.whole room
    contradiction
  · obtain ⟨i, -, -, e', missing, refused⟩ := table.cut room
    obtain rfl := Except.error.inj refused
    obtain ⟨p, mem, short, rfl⟩ := exists_span_of_missing missing
    exact cut i p mem short

/-- Reading a table that announces its records fails only for its count or for a part of a
record. -/
theorem ReadsCounted.failsOnly {table : String} {outcome : Except ImageError (List α)}
    (counted : f.ReadsCounted table r outcome)
    (uncounted : r.data.size < 4 → P (.truncated table (r.place 0) 4 r.data.size))
    (negative : ∀ n < 0, P (.manifest (.negativeCount table n)))
    (cut : ∀ position, ∀ p ∈ f.spans, r.data.size < f.offsetOf position + p.offset + p.width →
      P (f.truncated r position p)) : FailsOnly P outcome := by
  by_cases held : 4 ≤ r.data.size
  · rcases Int.lt_or_le r.data.announced 0 with below | nonneg
    · rw [counted.negative held below]
      exact .error (negative _ below)
    · obtain ⟨count, announced⟩ := Int.eq_ofNat_of_zero_le nonneg
      exact (counted.records held count announced).failsOnly cut
  · have short := Nat.lt_of_not_le held
    rw [counted.uncounted short]
    exact .error (uncounted short)

end SlotFormat

/-! ### The header -/

namespace Header

variable {image : Bytes}

/-- An image that ends before its header does is cut there, however short it is. -/
theorem read_of_short (short : image.size < Layout.directory) :
    Header.read image =
      .error (.truncated "axlf_header" (Region.place ⟨image, 0⟩ Layout.header) Layout.headerSize
        (image.size - Layout.header)) := by
  have cut : (Region.data ⟨image, 0⟩).size < Layout.header + Layout.headerSize := short
  rw [Header.read, Region.bytes_of_not_fits cut, error_bind]

/-- Once the header is there as a whole, only its mode may be wrong. -/
theorem failsOnly_read_of_held (held : Layout.directory ≤ image.size) :
    FailsOnly (fun e => ∃ code, ImageMode.ofCode? code = none ∧ .unknownMode code = e)
      (Header.read image) := by
  have whole : Layout.header + Layout.headerSize ≤ (Region.data ⟨image, 0⟩).size := held
  have inside {offset width : Nat} (within : offset + width ≤ Layout.headerSize) :
      Layout.header + offset + width ≤ (Region.data ⟨image, 0⟩).size := by omega
  unfold Header.read
  simp (disch := exact inside (by decide)) only [Region.bytes_of_fits whole,
    Region.number_of_fits, Region.text_of_fits, ok_bind]
  split
  · rename_i unknown
    exact .error ⟨_, unknown, rfl⟩
  · exact .ok _

end Header

/-! ### Faults -/

namespace Image

/-- What the directory of an image lists. -/
def HasDirectory (data : Bytes) (sections : List SectionRecord) : Prop :=
  ∃ header, Header.read data = .ok header ∧ readDirectory data header.sectionCount = .ok sections

/-- The payload of the first section of a kind and where it begins in the image. -/
def HasSection (data : Bytes) (kind : SectionKind) (base : Nat) (payload : Bytes) : Prop :=
  ∃ sections, HasDirectory data sections ∧ findSection data sections kind = .ok (some (base, payload))

/-- The region that a field is read from. Header and directory are read from the image itself, the
tables from the payload of their section. -/
inductive ReadsFrom (data : Bytes) : String → Region → Prop where
  /-- The header, as a whole. -/
  | header : ReadsFrom data "axlf_header" ⟨data, 0⟩
  /-- A record of the directory, as a whole. -/
  | record : ReadsFrom data "axlf_section_header" ⟨data, 0⟩
  /-- The count of the topology and the record of a bank, as a whole. -/
  | bank {field : String} {base : Nat} {payload : Bytes}
      (found : HasSection data .memTopology base payload)
      (named : field ∈ ["mem_topology", "mem_data"]) : ReadsFrom data field ⟨payload, base⟩
  /-- The count of the connectivity table and the fields of a connection. -/
  | connection {field : String} {base : Nat} {payload : Bytes}
      (found : HasSection data .connectivity base payload)
      (named : field ∈ ["connectivity", "arg_index", "m_ip_layout_index", "mem_data_index"]) :
      ReadsFrom data field ⟨payload, base⟩

/-- What is wrong with bytes that are taken for an image, and the error that says so. -/
inductive Fault (data : Bytes) : ImageError → Prop where
  /-- A field is not there as a whole. -/
  | cut {field : String} {r : Region} {offset len : Nat} (reads : ReadsFrom data field r)
      (wide : 0 < len) (short : r.data.size < offset + len) :
      Fault data (.truncated field (r.place offset) len (r.data.size - offset))
  /-- The mode has no meaning. -/
  | mode {code : UInt16} (unknown : ImageMode.ofCode? code = none) : Fault data (.unknownMode code)
  /-- A section is not listed. -/
  | absent {sections : List SectionRecord} {kind : SectionKind}
      (directory : HasDirectory data sections) (none : ∀ r ∈ sections, r.kind ≠ kind) :
      Fault data (.missingSection kind)
  /-- A section that is listed goes on behind the image. -/
  | outside {sections : List SectionRecord} {r : SectionRecord}
      (directory : HasDirectory data sections) (listed : r ∈ sections)
      (behind : data.size < r.offset + r.size) :
      Fault data (.sectionOutOfBounds r.kind r.offset r.size data.size)
  /-- The manifest is refused. -/
  | manifest {base : Nat} {payload : Bytes} {cause : ManifestError}
      (found : HasSection data .embeddedMetadata base payload)
      (refused : Manifest.read payload = .error cause) : Fault data (.manifest cause)
  /-- A table announces a negative number of records. -/
  | negative {table : String} {count : Int} (below : count < 0) :
      Fault data (.manifest (.negativeCount table count))

section Reading

variable {data : Bytes} {sections : List SectionRecord}

theorem failsOnly_header (data : Bytes) : FailsOnly (Fault data) (Header.read data) := by
  by_cases held : Layout.directory ≤ data.size
  · refine (Header.failsOnly_read_of_held held).imp ?_
    rintro _ ⟨code, unknown, rfl⟩
    exact .mode unknown
  · have short := Nat.lt_of_not_le held
    rw [Header.read_of_short short]
    exact .error (.cut .header (by decide) short)

theorem failsOnly_readDirectory (data : Bytes) (count : Nat) :
    FailsOnly (Fault data) (readDirectory data count) := by
  refine (readsTable_directory data count).failsOnly fun position p mem short => ?_
  obtain rfl := List.mem_singleton.1 mem
  exact .cut .record (by decide) short

theorem failsOnly_findSection (directory : HasDirectory data sections) (kind : SectionKind) :
    FailsOnly (Fault data) (findSection data sections kind) := by
  intro e refused
  obtain ⟨r, first, behind, rfl⟩ := findSection_eq_error_iff.1 refused
  have same := List.find?_some first
  obtain rfl : r.kind = kind := of_decide_eq_true same
  exact .outside directory (List.mem_of_find?_eq_some first) behind

/-- A table is refused for its count or for a part of a record, all of them fields of the region. -/
theorem failsOnly_counted {α : Type} {f : SlotFormat α} {table : String} {r : Region}
    {outcome : Except ImageError (List α)} (counted : f.ReadsCounted table r outcome)
    (count_reads : ReadsFrom data table r)
    (parts : ∀ p ∈ f.spans, ReadsFrom data p.name r ∧ 0 < p.width) :
    FailsOnly (Fault data) outcome := by
  refine counted.failsOnly (fun short => ?_) (fun _ below => .negative below)
    fun position p mem short => ?_
  · exact .cut count_reads (by decide) short
  · obtain ⟨reads, wide⟩ := parts p mem
    exact .cut reads wide short

theorem failsOnly_readMemoryBanks {base : Nat} {payload : Bytes}
    (found : HasSection data .memTopology base payload) :
    FailsOnly (Fault data) (readMemoryBanks payload base) := by
  have parts : ∀ p ∈ bankSlots.spans, p.name ∈ ["mem_topology", "mem_data"] ∧ 0 < p.width := by
    decide
  exact failsOnly_counted (readsCounted_banks payload base) (.bank found (by decide))
    fun p mem => (parts p mem).imp_left (.bank found)

theorem failsOnly_readConnections {base : Nat} {payload : Bytes}
    (found : HasSection data .connectivity base payload) :
    FailsOnly (Fault data) (readConnections payload base) := by
  have parts : ∀ p ∈ connectionSlots.spans,
      p.name ∈ ["connectivity", "arg_index", "m_ip_layout_index", "mem_data_index"] ∧
        0 < p.width := by decide
  exact failsOnly_counted (readsCounted_connections payload base) (.connection found (by decide))
    fun p mem => (parts p mem).imp_left (.connection found)

theorem failsOnly_placeArguments (directory : HasDirectory data sections) (args : ArgumentTable) :
    FailsOnly (Fault data) (placeArguments data sections args) := by
  unfold placeArguments
  refine (failsOnly_findSection directory .memTopology).bind fun topology topology_found => ?_
  cases topology with
  | none => exact .ok args
  | some topology =>
    have banks_found : HasSection data .memTopology topology.1 topology.2 :=
      ⟨sections, directory, topology_found⟩
    refine (failsOnly_readMemoryBanks banks_found).bind fun banks _ => ?_
    refine (failsOnly_findSection directory .connectivity).bind fun table table_found => ?_
    cases table with
    | none => exact .ok args
    | some table =>
      have connections_found : HasSection data .connectivity table.1 table.2 :=
        ⟨sections, directory, table_found⟩
      exact (failsOnly_readConnections connections_found).bind fun connections _ => .ok _

/-- Bytes without the magic ones are not taken for an image. -/
theorem read_of_foreign (foreign : hasMagic data = false) : read data = .error .notRecognized := by
  rw [read, readWith]
  simp only [foreign, Bool.not_false, if_true]
  rfl

/-- If bytes with the magic ones at their start are not read, then something is wrong with them and
the error says what. -/
theorem failsOnly_read (magic : hasMagic data = true) : FailsOnly (Fault data) (read data) := by
  rw [read, readWith]
  simp only [magic, Bool.not_true, Bool.false_eq_true, if_false]
  refine (failsOnly_header data).bind fun header header_read => ?_
  refine (failsOnly_readDirectory data header.sectionCount).bind fun sections listed => ?_
  have directory : HasDirectory data sections := ⟨header, header_read, listed⟩
  refine (failsOnly_findSection directory .embeddedMetadata).bind fun found answered => ?_
  cases found with
  | none =>
    have none := List.find?_eq_none.1 (findSection_eq_none_iff.1 answered)
    exact .error (.absent directory (by simpa using none))
  | some found =>
    have present : HasSection data .embeddedMetadata found.1 found.2 :=
      ⟨sections, directory, answered⟩
    have manifest : FailsOnly (Fault data) ((Manifest.read found.2).mapError .manifest) :=
      .mapError fun cause refused => .manifest present refused
    refine manifest.bind fun manifest _ => ?_
    exact (failsOnly_placeArguments directory manifest.args).bind fun args _ => .ok _

end Reading

end Image

end FpgaHost
