import FpgaHost.Image.Spec
import FpgaHost.Proofs.Image.Fields
import Std.Data.TreeMap.Lemmas

/-!
# The two tables of an assembled image

The topology and the connectivity table of a specification are read back record by record
(`readMemoryBanks_topologyPayload`, `readConnections_connectivityPayload`). What the connections say
of an argument is settled by the last of them that names it and a bank in use: the reader finds it
by overwriting (`connectedTags_eq`), the specification says it outright (`ImageSpec.tagOf?`).
-/

namespace FpgaHost

namespace ImageSpec

/-! ### The topology -/

/-- The bank that is read back for the bank at a position. A technology without a name may come back
as the one that has its code. -/
def bankOf (placed : BankSpec × Nat) : MemoryBank where
  index := placed.2
  memoryType := .ofCode placed.1.memoryType.code
  used := placed.1.used
  sizeKb := bankSizeKb
  baseAddress := placed.2 * (1024 * bankSizeKb) % 256 ^ 8
  tag := placed.1.tag

theorem bankRecords_eq_flatMap (position : Nat) (banks : List BankSpec) :
    bankRecords position banks = (banks.zipIdx position).flatMap fun b => bankRecord b.2 b.1 := by
  induction banks generalizing position with
  | nil => rfl
  | cons b rest ih => rw [bankRecords, List.zipIdx_cons, List.flatMap_cons, ih]

theorem length_bankRecord (position : Nat) (b : BankSpec) :
    (bankRecord position b).length = Layout.Topology.recordSize := by
  simp only [bankRecord, List.length_append, List.length_cons, List.length_nil,
    Octets.length_ofNat, Octets.length_zeros, Octets.length_terminated]
  rfl

theorem read_bankRecord {data : Bytes} {base position : Nat} {b : BankSpec}
    (h : HoldsAt data.toList
      (Layout.Topology.records + position * Layout.Topology.recordSize) (bankRecord position b))
    (tag : FitsField Layout.Topology.tagSize b.tag) :
    MemoryBank.read ⟨data, base⟩ position = .ok (bankOf (b, position)) := by
  have whole : Region.bytes ⟨data, base⟩ "mem_data"
      (Layout.Topology.records + position * Layout.Topology.recordSize)
      Layout.Topology.recordSize = .ok _ :=
    Region.bytes_of_holdsAt h (length_bankRecord position b)
  have code : UInt8.ofNat b.memoryType.code.toNat = b.memoryType.code := UInt8.ofNat_toNat
  have used : ((if b.used then (1 : UInt8) else 0).toNat != 0) = b.used := by
    cases b.used <;> rfl
  have flags : [b.memoryType.code, if b.used then 1 else 0] =
      [b.memoryType.code] ++ [if b.used then 1 else 0] := rfl
  have size_kb : bankSizeKb % 256 ^ 8 = bankSizeKb := rfl
  simp only [bankRecord, flags, holdsAt_append, List.length_append, List.length_cons,
    List.length_nil, Octets.length_ofNat, Octets.length_zeros] at h
  obtain ⟨⟨⟨⟨⟨type_at, used_at⟩, -⟩, size_at⟩, address_at⟩, tag_at⟩ := h
  -- the offsets add up to those of the layout
  generalize first : Layout.Topology.records + position * Layout.Topology.recordSize = start at *
  have type_at : HoldsAt data.toList (start + Layout.Topology.memoryType) _ := type_at
  have used_at : HoldsAt data.toList (start + Layout.Topology.used) _ := used_at
  have size_at : HoldsAt data.toList (start + Layout.Topology.sizeKb) _ := size_at
  have address_at : HoldsAt data.toList (start + Layout.Topology.baseAddress) _ := address_at
  have tag_at : HoldsAt data.toList (start + Layout.Topology.tag) _ := tag_at
  simp only [MemoryBank.read, first, whole, bind, Except.bind, pure, Except.pure,
    Region.number_of_holdsAt_byte type_at, Region.number_of_holdsAt_byte used_at,
    Region.number_of_holdsAt size_at, Region.number_of_holdsAt address_at,
    Region.text_of_holdsAt tag_at tag, code, used, size_kb, bankOf]

/-- The banks that are read back from the topology. -/
def bankTable (s : ImageSpec) : List MemoryBank := s.banks.zipIdx.map bankOf

/-- A count that is not taken for a negative one is at most the number of records. -/
theorem announced_le {n count : Nat} (announced : (n : Int).bmod (2 ^ 32) = count) : count ≤ n := by
  rw [Int.bmod_def] at announced
  split at announced <;> omega

/-- Of the banks, those are read back that the table announces. -/
theorem readMemoryBanks_announced {s : ImageSpec} (base : Nat) {count : Nat}
    (announced : (s.banks.length : Int).bmod (2 ^ 32) = count)
    (tags : ∀ b ∈ s.banks, FitsField Layout.Topology.tagSize b.tag) :
    readMemoryBanks (.ofList s.topologyPayload) base = .ok (s.bankTable.take count) := by
  have payload := HoldsAt.whole s.topologyPayload
  conv at payload => arg 3; rw [topologyPayload, bankRecords_eq_flatMap]
  simp only [holdsAt_append, List.length_append, Octets.length_ofNat, Octets.length_zeros]
    at payload
  obtain ⟨⟨stored, -⟩, records⟩ := payload
  rw [← Bytes.toList_ofList s.topologyPayload] at stored records
  have counted : Region.count ⟨.ofList s.topologyPayload, base⟩ "mem_topology"
      Layout.Topology.count = .ok count := Region.count_of_holdsAt stored announced
  have length : s.banks.zipIdx.length = s.banks.length := List.length_zipIdx
  have few : count ≤ s.banks.zipIdx.length := length ▸ announced_le announced
  simp only [readMemoryBanks, counted, bind, Except.bind]
  refine records_take_of_holdsAt records (fun b _ => length_bankRecord b.2 b.1) few
    fun k inside record => ?_
  have within : k < s.banks.length := length ▸ inside
  have item : s.banks.zipIdx[k] = (s.banks[k], k) := by simp
  rw [item] at record ⊢
  exact read_bankRecord record (tags _ (List.getElem_mem _))

theorem readMemoryBanks_topologyPayload {s : ImageSpec} (base : Nat)
    (few : s.banks.length < 2 ^ 31)
    (tags : ∀ b ∈ s.banks, FitsField Layout.Topology.tagSize b.tag) :
    readMemoryBanks (.ofList s.topologyPayload) base = .ok s.bankTable := by
  have announced : (s.banks.length : Int).bmod (2 ^ 32) = s.banks.length :=
    Int.bmod_eq_of_le (by omega) (by omega)
  rw [readMemoryBanks_announced base announced tags, List.take_of_length_le]
  simp [bankTable]

/-! ### The connectivity table -/

/-- The connection that is read back. -/
def connectionOf (c : Int32 × Int32) : Connection := ⟨c.1, 0, c.2⟩

theorem length_connectionRecord (c : Int32 × Int32) :
    (connectionRecord c).length = Layout.Connectivity.recordSize := by
  simp only [connectionRecord, Octets.ofInt32, List.length_append, Octets.length_ofNat,
    Octets.length_zeros]
  rfl

theorem read_connectionRecord {data : Bytes} {base position : Nat} {c : Int32 × Int32}
    (h : HoldsAt data.toList
      (Layout.Connectivity.records + position * Layout.Connectivity.recordSize)
      (connectionRecord c)) :
    Connection.read ⟨data, base⟩ position = .ok (connectionOf c) := by
  have zeros : Octets.zeros 4 = Octets.ofInt32 0 := rfl
  have width (n : Int32) : (Octets.ofInt32 n).length = 4 := Octets.length_ofNat ..
  simp only [connectionRecord, zeros, holdsAt_append, List.length_append, width] at h
  obtain ⟨⟨argument, unit⟩, bank⟩ := h
  generalize first : Layout.Connectivity.records +
    position * Layout.Connectivity.recordSize = start at *
  have argument : HoldsAt data.toList (start + Layout.Connectivity.argument) _ := argument
  have unit : HoldsAt data.toList (start + Layout.Connectivity.unit) _ := unit
  have bank : HoldsAt data.toList (start + Layout.Connectivity.bank) _ := bank
  simp only [Connection.read, first, bind, Except.bind, pure, Except.pure,
    Region.int32_of_holdsAt argument, Region.int32_of_holdsAt unit, Region.int32_of_holdsAt bank,
    connectionOf]

/-- Of the connections, those are read back that the table announces. -/
theorem readConnections_announced {s : ImageSpec} (base : Nat) {count : Nat}
    (announced : (s.connections.length : Int).bmod (2 ^ 32) = count) :
    readConnections (.ofList s.connectivityPayload) base =
      .ok ((s.connections.map connectionOf).take count) := by
  have payload := HoldsAt.whole s.connectivityPayload
  conv at payload => arg 3; rw [connectivityPayload]
  simp only [holdsAt_append, Octets.length_ofNat] at payload
  obtain ⟨stored, records⟩ := payload
  rw [← Bytes.toList_ofList s.connectivityPayload] at stored records
  have counted : Region.count ⟨.ofList s.connectivityPayload, base⟩ "connectivity"
      Layout.Connectivity.count = .ok count := Region.count_of_holdsAt stored announced
  simp only [readConnections, counted, bind, Except.bind]
  exact records_take_of_holdsAt records (fun c _ => length_connectionRecord c)
    (announced_le announced) fun k inside record => read_connectionRecord record

theorem readConnections_connectivityPayload {s : ImageSpec} (base : Nat)
    (few : s.connections.length < 2 ^ 31) :
    readConnections (.ofList s.connectivityPayload) base =
      .ok (s.connections.map connectionOf) := by
  have announced : (s.connections.length : Int).bmod (2 ^ 32) = s.connections.length :=
    Int.bmod_eq_of_le (by omega) (by omega)
  rw [readConnections_announced base announced, List.take_of_length_le]
  simp

/-! ### The tags -/

/-- The tag of the bank at a position, if there is such a bank and the image uses it. -/
def usedTag? (s : ImageSpec) (position : Int32) : Option String :=
  if position.toInt < 0 then none
  else (s.banks[position.toInt.toNat]?).bind fun b => if b.used then some b.tag else none

/-- The tag of an argument: that of its last connection to a bank in use. -/
def tagOf? (s : ImageSpec) (index : Nat) : Option String :=
  (s.connections.filterMap fun c =>
    if c.1.toInt = (index : Int) then s.usedTag? c.2 else none).getLast?

end ImageSpec

/-- Entries put into a map one after the other: the last one of a key stays. -/
theorem getElem?_foldl_insert (entries : List (Nat × String)) (tags : Std.TreeMap Nat String)
    (index : Nat) :
    (entries.foldl (fun tags (index, tag) => tags.insert index tag) tags)[index]? =
      (entries.filterMap fun e => if e.1 = index then some e.2 else none).getLast?.or
        tags[index]? := by
  induction entries generalizing tags with
  | nil => rfl
  | cons e rest ih =>
    rw [List.foldl_cons, ih, Std.TreeMap.getElem?_insert, List.filterMap_cons]
    by_cases same : e.1 = index
    · simp only [same, Std.ReflCmp.compare_self, if_true, List.getLast?_cons]
      cases (rest.filterMap fun e => if e.1 = index then some e.2 else none).getLast? <;> rfl
    · simp only [same, Std.LawfulEqCmp.compare_eq_iff_eq, if_false]

namespace ImageSpec

theorem tag?_connectionOf (s : ImageSpec) (c : Int32 × Int32) (index : Nat) :
    (((connectionOf c).tag? s.bankTable.toArray).bind fun e =>
        if e.1 = index then some e.2 else none) =
      if c.1.toInt = (index : Int) then s.usedTag? c.2 else none := by
  have bank (k : Nat) : s.bankTable.toArray[k]? = (s.banks[k]?).map fun b => bankOf (b, k) := by
    simp [bankTable, Function.comp_def]
  unfold Connection.tag? usedTag?
  rw [show (connectionOf c).argument = c.1 from rfl, show (connectionOf c).bank = c.2 from rfl]
  simp only [position?, bind]
  by_cases negative : c.1.toInt < 0
  · have other : ¬c.1.toInt = (index : Int) := by omega
    rw [if_neg other, if_pos negative]
    rfl
  by_cases absent : c.2.toInt < 0
  · rw [if_neg negative, if_pos absent, if_pos absent]
    simp
  rw [if_neg negative, if_neg absent, if_neg absent]
  simp only [Option.bind_some, bank]
  cases s.banks[c.2.toInt.toNat]? with
  | none => simp
  | some b =>
    have same : c.1.toInt.toNat = index ↔ c.1.toInt = (index : Int) := by omega
    cases used : b.used
    · simp [bankOf, used]
    · simp only [Option.map_some, Option.bind_some, bankOf, used, if_true, same]

/-- The reader settles the tag of an argument as the specification says. -/
theorem connectedTags_eq (s : ImageSpec) (index : Nat) :
    (connectedTags s.bankTable.toArray (s.connections.map connectionOf))[index]? =
      s.tagOf? index := by
  rw [connectedTags, getElem?_foldl_insert, List.filterMap_filterMap, List.filterMap_map,
    Std.TreeMap.getElem?_emptyc, Option.or_none, tagOf?]
  congr 2
  funext c
  exact tag?_connectionOf s c index

end ImageSpec

end FpgaHost
