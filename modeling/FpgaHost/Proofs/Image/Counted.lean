import FpgaHost.Proofs.Image.Slots
import FpgaHost.Proofs.Image.Tables

/-!
# Tables that announce their records

The topology and the connectivity table begin with a signed number, which says how many records
follow. What reading such a table comes to is said in full by `SlotFormat.ReadsCounted`: the table
is refused if it does not hold its count, if the count is negative and if it does not hold all its
records; otherwise it is read as its records, each from its own slot, whatever stands behind them.

The two tables differ in what is checked. A bank is checked as a whole, after four unused bytes
that no one reads if there is no bank; a connection is checked field by field, right behind the
count.
-/

namespace FpgaHost

/-! ### The slots of the two tables -/

/-- What the bytes of a bank's record say. -/
def MemoryBank.ofSlot (index : Nat) (slot : Octets) : MemoryBank where
  index
  memoryType := .ofCode (.ofNat (slot.field Layout.Topology.memoryType 1).toNat)
  used := (slot.field Layout.Topology.used 1).toNat != 0
  sizeKb := (slot.field Layout.Topology.sizeKb 8).toNat
  baseAddress := (slot.field Layout.Topology.baseAddress 8).toNat
  tag := Utf8.decodeLossy (slot.field Layout.Topology.tag Layout.Topology.tagSize).beforeZero

/-- What the bytes of a connection's record say. -/
def Connection.ofSlot (slot : Octets) : Connection where
  argument := (slot.field Layout.Connectivity.argument 4).toInt32
  unit := (slot.field Layout.Connectivity.unit 4).toInt32
  bank := (slot.field Layout.Connectivity.bank 4).toInt32

/-- The slots of the topology. A record is checked as a whole. -/
def bankSlots : SlotFormat MemoryBank where
  start := Layout.Topology.records
  width := Layout.Topology.recordSize
  spans := [⟨"mem_data", 0, Layout.Topology.recordSize⟩]
  decode := .ofSlot

/-- The index of the argument. -/
def argumentSpan : Span := ⟨"arg_index", Layout.Connectivity.argument, 4⟩

/-- The index of the compute unit. -/
def unitSpan : Span := ⟨"m_ip_layout_index", Layout.Connectivity.unit, 4⟩

/-- The position of the bank. -/
def bankSpan : Span := ⟨"mem_data_index", Layout.Connectivity.bank, 4⟩

/-- The slots of the connectivity table. A record is checked field by field. -/
def connectionSlots : SlotFormat Connection where
  start := Layout.Connectivity.records
  width := Layout.Connectivity.recordSize
  spans := [argumentSpan, unitSpan, bankSpan]
  decode _ := .ofSlot

theorem bankSlots_sound : bankSlots.Sound := ⟨by decide, by decide⟩

theorem connectionSlots_sound : connectionSlots.Sound := ⟨by decide, by decide⟩

theorem reads_bank (r : Region) : bankSlots.Reads r (MemoryBank.read r) := by
  refine SlotFormat.reads_of_whole bankSlots_sound rfl (fun position => rfl) fun position fits => ?_
  have inside {offset width : Nat} (within : offset + width ≤ Layout.Topology.recordSize) :
      Layout.Topology.records + position * Layout.Topology.recordSize + offset + width ≤
        r.data.size := fits.inside within
  simp (disch := exact inside (by decide)) only [Region.number_of_fits, Region.text_of_fits,
    ok_bind]
  simp (disch := decide) only [SlotFormat.record, SlotFormat.offsetOf, bankSlots,
    MemoryBank.ofSlot, Octets.field_field]
  rfl

theorem reads_connection (r : Region) : connectionSlots.Reads r (Connection.read r) := by
  intro position
  have start : Layout.Connectivity.records + position * Layout.Connectivity.recordSize =
    connectionSlots.offsetOf position := rfl
  simp only [Connection.read, start]
  by_cases argument : connectionSlots.offsetOf position + Layout.Connectivity.argument + 4 ≤
      r.data.size
  case neg =>
    have cut := Nat.lt_of_not_le argument
    rw [SlotFormat.outcome_of_missing [] argumentSpan rfl (by simp) cut,
      Region.int32_of_not_fits cut]
    rfl
  by_cases unit : connectionSlots.offsetOf position + Layout.Connectivity.unit + 4 ≤ r.data.size
  case neg =>
    have cut := Nat.lt_of_not_le unit
    rw [SlotFormat.outcome_of_missing [argumentSpan] unitSpan rfl
      (by simpa [argumentSpan] using argument) cut,
      Region.int32_of_fits argument, Region.int32_of_not_fits cut]
    rfl
  by_cases bank : connectionSlots.offsetOf position + Layout.Connectivity.bank + 4 ≤ r.data.size
  case neg =>
    have cut := Nat.lt_of_not_le bank
    rw [SlotFormat.outcome_of_missing [argumentSpan, unitSpan] bankSpan rfl
      (by simpa [argumentSpan, unitSpan] using ⟨argument, unit⟩) cut, Region.int32_of_fits argument,
      Region.int32_of_fits unit, Region.int32_of_not_fits cut]
    rfl
  have fits : connectionSlots.Fits r position := bank
  rw [SlotFormat.outcome_of_fits connectionSlots_sound fits, SlotFormat.record]
  simp only [Region.int32_of_fits argument, Region.int32_of_fits unit, Region.int32_of_fits bank,
    ok_bind]
  simp (disch := decide) only [connectionSlots, Connection.ofSlot, Octets.field_field]
  rfl

/-! ### Counts -/

/-- The number of records that a table announces: its first four bytes, with a sign. -/
def Bytes.announced (payload : Bytes) : Int := (payload.toList.field 0 4).toInt32.toInt

section Count

variable {r : Region} {table : String}

theorem count_of_short (short : r.data.size < 4) :
    r.count table 0 = .error (.truncated table (r.place 0) 4 r.data.size) := by
  rw [Region.count, Region.int32_of_not_fits (by omega), error_bind, Nat.sub_zero]

theorem count_of_negative (held : 4 ≤ r.data.size) (negative : r.data.announced < 0) :
    r.count table 0 = .error (.manifest (.negativeCount table r.data.announced)) := by
  rw [Region.count, Region.int32_of_fits (by omega), ok_bind]
  exact if_pos negative

theorem count_of_announced (held : 4 ≤ r.data.size) {count : Nat}
    (announced : r.data.announced = count) : r.count table 0 = .ok count := by
  have nonneg : ¬(count : Int) < 0 := by omega
  rw [Region.count, Region.int32_of_fits (by omega), ok_bind]
  rw [Bytes.announced] at announced
  simp only [announced, if_neg nonneg, Int.toNat_natCast]
  rfl

end Count

namespace SlotFormat

variable {α : Type}

/-- What reading a table comes to that announces its records. -/
structure ReadsCounted (f : SlotFormat α) (table : String) (r : Region)
    (outcome : Except ImageError (List α)) : Prop where
  /-- A table that does not hold its count is cut there. -/
  uncounted : r.data.size < 4 → outcome = .error (.truncated table (r.place 0) 4 r.data.size)
  /-- A negative count is refused. -/
  negative : 4 ≤ r.data.size → r.data.announced < 0 →
    outcome = .error (.manifest (.negativeCount table r.data.announced))
  /-- Any other table is read as one of as many records as it announces. -/
  records : 4 ≤ r.data.size → ∀ count : Nat, r.data.announced = count →
    f.ReadsTable r count outcome

section Counted

variable {f : SlotFormat α} {r : Region} {table : String} {outcome : Except ImageError (List α)}

theorem readsCounted {read : Nat → Except ImageError α} (reads : f.Reads r read) (sound : f.Sound) :
    f.ReadsCounted table r (r.count table 0 >>= Region.records read) where
  uncounted short := by rw [count_of_short short, error_bind]
  negative held negative := by rw [count_of_negative held negative, error_bind]
  records held count announced := by
    rw [count_of_announced held announced, ok_bind]
    exact readsTable reads sound

/-- A table is accepted exactly if it holds its count and the records that it announces. -/
theorem ReadsCounted.exists_ok_iff (counted : f.ReadsCounted table r outcome) :
    (∃ records, outcome = .ok records) ↔
      4 ≤ r.data.size ∧ ∃ count : Nat, r.data.announced = count ∧
        (count = 0 ∨ f.start + count * f.width ≤ r.data.size) := by
  constructor
  · rintro ⟨records, rfl⟩
    have held : 4 ≤ r.data.size := Nat.le_of_not_lt fun short => nomatch counted.uncounted short
    have nonneg : 0 ≤ r.data.announced :=
      Int.not_lt.1 fun negative => nomatch counted.negative held negative
    obtain ⟨count, announced⟩ := Int.eq_ofNat_of_zero_le nonneg
    have table := counted.records held count announced
    exact ⟨held, count, announced, table.exists_ok_iff.1 ⟨records, rfl⟩⟩
  · rintro ⟨held, count, announced, room⟩
    exact (counted.records held count announced).exists_ok_iff.2 room

end Counted

end SlotFormat

theorem readsCounted_banks (payload : Bytes) (base : Nat) :
    bankSlots.ReadsCounted "mem_topology" ⟨payload, base⟩ (readMemoryBanks payload base) :=
  SlotFormat.readsCounted (reads_bank ⟨payload, base⟩) bankSlots_sound

theorem readsCounted_connections (payload : Bytes) (base : Nat) :
    connectionSlots.ReadsCounted "connectivity" ⟨payload, base⟩ (readConnections payload base) :=
  SlotFormat.readsCounted (reads_connection ⟨payload, base⟩) connectionSlots_sound

/-! ### Written tables -/

/-- What reading a written table of some entries comes to. The count is signed and takes four
bytes, so it may be taken for another one if there are `2 ^ 31` entries or more. -/
structure GivesBack {α : Type} (payload : Bytes) (outcome : Except ImageError (List α))
    (entries : List α) : Prop where
  /-- What the table announces is the remainder of the number of its entries. -/
  announced : payload.announced = (entries.length : Int).bmod (2 ^ 32)
  /-- Unless that is negative, as many entries are given back, the first ones. -/
  first : ∀ count : Nat, payload.announced = count → outcome = .ok (entries.take count)
  /-- All of them are, if they are not too many for their count. -/
  all : entries.length < 2 ^ 31 → outcome = .ok entries

theorem announced_of_count (n : Nat) (records : Octets) :
    (Bytes.ofList (Octets.ofNat 4 n ++ records)).announced = (n : Int).bmod (2 ^ 32) := by
  have first : (Octets.ofNat 4 n ++ records).field 0 4 = Octets.ofNat 4 n := by
    rw [Octets.field, List.drop_zero, List.take_left' (Octets.length_ofNat 4 n)]
  rw [Bytes.announced, Bytes.toList_ofList, first, Region.toInt_toInt32_ofNat]

theorem givesBack {α : Type} {payload : Bytes} {outcome : Except ImageError (List α)}
    {entries : List α} (announced : payload.announced = (entries.length : Int).bmod (2 ^ 32))
    (first : ∀ count : Nat, payload.announced = count → outcome = .ok (entries.take count)) :
    GivesBack payload outcome entries := by
  refine ⟨announced, first, fun few => ?_⟩
  rw [Int.bmod_eq_of_le (by omega) (by omega)] at announced
  rw [first _ announced, List.take_length]

theorem givesBack_topology {s : ImageSpec} (base : Nat)
    (tags : ∀ b ∈ s.banks, FitsField Layout.Topology.tagSize b.tag) :
    GivesBack (.ofList s.topologyPayload) (readMemoryBanks (.ofList s.topologyPayload) base)
      s.bankTable := by
  have length : s.bankTable.length = s.banks.length := by simp [ImageSpec.bankTable]
  have announced : (Bytes.ofList s.topologyPayload).announced =
      (s.bankTable.length : Int).bmod (2 ^ 32) := by
    rw [length, ImageSpec.topologyPayload, List.append_assoc, announced_of_count]
  refine givesBack announced fun count said => ?_
  rw [announced, length] at said
  exact ImageSpec.readMemoryBanks_announced base said tags

theorem givesBack_connectivity (s : ImageSpec) (base : Nat) :
    GivesBack (.ofList s.connectivityPayload) (readConnections (.ofList s.connectivityPayload) base)
      (s.connections.map ImageSpec.connectionOf) := by
  have announced : (Bytes.ofList s.connectivityPayload).announced =
      ((s.connections.map ImageSpec.connectionOf).length : Int).bmod (2 ^ 32) := by
    rw [List.length_map, ImageSpec.connectivityPayload, announced_of_count]
  refine givesBack announced fun count said => ?_
  rw [announced, List.length_map] at said
  exact ImageSpec.readConnections_announced base said

/-- The code of a technology is the code that it was read from. -/
theorem MemoryType.code_ofCode (code : UInt8) : (ofCode code).code = code := by
  have distinct : known.Nodup := by decide
  have listed : ∀ t ∈ known, t.code = .ofNat (known.idxOf t) := by decide
  unfold ofCode
  cases found : known[code.toNat]? with
  | none => rfl
  | some t =>
    obtain ⟨below, rfl⟩ := List.getElem?_eq_some_iff.1 found
    rw [Option.getD_some, listed _ (List.getElem_mem below), distinct.idxOf_getElem,
      UInt8.ofNat_toNat]

/-- The banks that are read back are those of the specification, each at its position. -/
theorem bankTable_map (s : ImageSpec) :
    (s.bankTable.map fun b => (b.index, b.tag, b.used, b.memoryType.code)) =
      s.banks.zipIdx.map fun b => (b.2, b.1.tag, b.1.used, b.1.memoryType.code) := by
  simp [ImageSpec.bankTable, ImageSpec.bankOf, MemoryType.code_ofCode]

/-- A technology that a code stands for is read back as itself. -/
theorem bankTable_memoryType {s : ImageSpec}
    (coded : ∀ b ∈ s.banks, ∃ code, b.memoryType = .ofCode code) :
    s.bankTable.map (·.memoryType) = s.banks.map (·.memoryType) := by
  have same : ∀ b ∈ s.banks, MemoryType.ofCode b.memoryType.code = b.memoryType := by
    intro b mem
    obtain ⟨code, coded⟩ := coded b mem
    rw [coded, MemoryType.code_ofCode]
  have first : s.bankTable.map (·.memoryType) =
      (s.banks.zipIdx.map Prod.fst).map fun b => .ofCode b.memoryType.code := by
    rw [ImageSpec.bankTable, List.map_map, List.map_map]
    rfl
  rw [first, List.zipIdx_map_fst, List.map_congr_left same]

/-! ### The tables -/

/-- The two tables are accepted exactly when they hold what they announce, and reading them comes to
their records or to the error for what is missing first. The tables of a specification give back
its banks and its connections: tags that fit, and technologies up to their codes. -/
theorem readTables_exact (payload : Bytes) (base : Nat) :
    ((∃ banks, readMemoryBanks payload base = .ok banks) ↔
      4 ≤ payload.size ∧ ∃ count : Nat, payload.announced = count ∧
        (count = 0 ∨ 8 + 40 * count ≤ payload.size)) ∧
    ((∃ connections, readConnections payload base = .ok connections) ↔
      4 ≤ payload.size ∧ ∃ count : Nat, payload.announced = count ∧
        4 + 12 * count ≤ payload.size) ∧
    bankSlots.ReadsCounted "mem_topology" ⟨payload, base⟩ (readMemoryBanks payload base) ∧
    connectionSlots.ReadsCounted "connectivity" ⟨payload, base⟩ (readConnections payload base) ∧
    ∀ s : ImageSpec,
      ((∀ b ∈ s.banks, FitsField Layout.Topology.tagSize b.tag) →
        GivesBack (.ofList s.topologyPayload) (readMemoryBanks (.ofList s.topologyPayload) base)
          s.bankTable) ∧
      (s.bankTable.map fun b => (b.index, b.tag, b.used, b.memoryType.code)) =
        (s.banks.zipIdx.map fun b => (b.2, b.1.tag, b.1.used, b.1.memoryType.code)) ∧
      ((∀ b ∈ s.banks, ∃ code, b.memoryType = .ofCode code) →
        s.bankTable.map (·.memoryType) = s.banks.map (·.memoryType)) ∧
      GivesBack (.ofList s.connectivityPayload)
        (readConnections (.ofList s.connectivityPayload) base)
        (s.connections.map ImageSpec.connectionOf) ∧
      (s.connections.map ImageSpec.connectionOf).map (fun c => (c.argument, c.bank)) =
        s.connections := by
  have banks := readsCounted_banks payload base
  have connections := readsCounted_connections payload base
  refine ⟨banks.exists_ok_iff.trans ?_, connections.exists_ok_iff.trans ?_, banks, connections,
    fun s => ⟨givesBack_topology base, bankTable_map s, bankTable_memoryType,
      givesBack_connectivity s base, ?_⟩⟩
  · simp only [bankSlots, Layout.Topology.records, Layout.Topology.recordSize, Nat.mul_comm]
  · -- without records, the table has its count and nothing else
    simp only [connectionSlots, Layout.Connectivity.records, Layout.Connectivity.recordSize]
    constructor
    · rintro ⟨held, count, announced, room⟩
      exact ⟨held, count, announced, by omega⟩
    · rintro ⟨held, count, announced, room⟩
      exact ⟨held, count, announced, by omega⟩
  · rw [List.map_map]
    exact List.map_id s.connections

/-- A connection of which seven bytes are there is cut at its second field, and a bank is read back
with its tag. -/
theorem readTables_exact_oneRecord :
    readConnections (.ofList (Octets.ofNat 4 1 ++ Octets.zeros 7)) 100 =
        .error (.truncated "m_ip_layout_index" 108 4 3) ∧
      readMemoryBanks (.ofList
          ((ImageSpec.ofKernel "u280" "vadd").bank { tag := "HBM[0]" }).topologyPayload) 0 =
        .ok [⟨0, .ddr4, true, ImageSpec.bankSizeKb, 0, "HBM[0]"⟩] := by
  constructor
  · obtain ⟨-, -, -, connections, -⟩ :=
      readTables_exact (.ofList (Octets.ofNat 4 1 ++ Octets.zeros 7)) 100
    obtain ⟨i, below, -, e, missing, refused⟩ :=
      (connections.records (by decide) 1 (by decide)).cut (by decide)
    obtain rfl : i = 0 := by omega
    obtain rfl : .truncated "m_ip_layout_index" 108 4 3 = e := Option.some.inj missing
    exact refused
  · obtain ⟨-, -, -, -, specified⟩ := readTables_exact (.ofList []) 0
    refine (specified _).1 (fun b mem => ?_) |>.all (by decide)
    obtain rfl := List.mem_singleton.1 mem
    exact ⟨by decide, by decide⟩

/-- A technology without a name whose code is that of one with a name is read back as that one. And
connections that are too many for a signed count are not read back. -/
theorem tables_not_given_back :
    let s := (ImageSpec.ofKernel "u280" "vadd").bank { tag := "DDR[0]", memoryType := .unknown 1 }
    let t := { ImageSpec.ofKernel "u280" "vadd" with connections := List.replicate (2 ^ 31) (0, 0) }
    (∀ b ∈ s.banks, FitsField Layout.Topology.tagSize b.tag) ∧
      (∃ banks, readMemoryBanks (.ofList s.topologyPayload) 0 = .ok banks ∧
        banks.map (·.memoryType) = [.ddr4] ∧ s.banks.map (·.memoryType) = [.unknown 1]) ∧
      readConnections (.ofList t.connectivityPayload) 0 =
        .error (.manifest (.negativeCount "connectivity" (-2147483648))) := by
  intro s t
  have tags : ∀ b ∈ s.banks, FitsField Layout.Topology.tagSize b.tag := by
    intro b mem
    obtain rfl := List.mem_singleton.1 mem
    exact ⟨by decide, by decide⟩
  have negative : (Bytes.ofList t.connectivityPayload).announced = -2147483648 := by
    have announced := (givesBack_connectivity t 0).announced
    rw [List.length_map, List.length_replicate] at announced
    rw [announced]
    decide
  have held : 4 ≤ (Bytes.ofList t.connectivityPayload).size := by
    rw [Bytes.size_ofList, ImageSpec.connectivityPayload, List.length_append, Octets.length_ofNat]
    exact Nat.le_add_right 4 _
  refine ⟨tags, ⟨_, (givesBack_topology 0 tags).all (by decide), by decide, by decide⟩, ?_⟩
  have refused := (readsCounted_connections (.ofList t.connectivityPayload) 0).negative held
    (by rw [negative]; decide)
  rwa [negative] at refused

end FpgaHost
