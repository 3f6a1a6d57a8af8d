import FpgaHost.Image.Region
import FpgaHost.Proofs.Text.Encoding
import Mathlib.Algebra.Group.Nat.Defs

/-!
# Fields where they were put

`HoldsAt data offset field` says that a field stands in some bytes from an offset on. It takes a
sequence of fields apart (`holdsAt_append`), so where a record is known to stand, so is each of its
fields, and each reader of a region answers what was written there: `number_of_holdsAt`,
`int32_of_holdsAt`, `count_of_holdsAt` and `text_of_holdsAt`.

A text is read back from its field if it fits: it must leave room for the zero byte that ends it and
hold none itself (`FitsField`). A table of records of one width is read back if each of its records
is (`records_of_holdsAt`).
-/

namespace FpgaHost

/-- A number is read back modulo its width. -/
theorem Octets.toNat_ofNat (width n : Nat) : toNat (ofNat width n) = n % 256 ^ width := by
  induction width generalizing n with
  | zero => simp [ofNat, toNat, Nat.mod_one]
  | succ width ih =>
    have byte : (UInt8.ofNat n).toNat = n % 256 := by simp
    rw [ofNat, toNat, ih, byte, Nat.pow_succ', Nat.mod_mul]

/-- A field stands in some bytes from an offset on. -/
structure HoldsAt (data : Octets) (offset : Nat) (field : Octets) : Prop where
  /-- The bytes do not end before the field does. -/
  inside : offset + field.length ≤ data.length
  /-- The field is what stands there. -/
  same : (data.drop offset).take field.length = field

namespace HoldsAt

theorem whole (data : Octets) : HoldsAt data 0 data := ⟨by simp, by simp⟩

end HoldsAt

theorem holdsAt_append {data a b : Octets} {offset : Nat} :
    HoldsAt data offset (a ++ b) ↔ HoldsAt data offset a ∧ HoldsAt data (offset + a.length) b := by
  constructor
  · rintro ⟨inside, same⟩
    rw [List.length_append] at inside same
    rw [List.take_add, List.drop_drop] at same
    have both := List.append_inj same (by
      rw [List.length_take, List.length_drop]
      omega)
    exact ⟨⟨by omega, both.1⟩, ⟨by omega, both.2⟩⟩
  · rintro ⟨first, second⟩
    have inside := second.inside
    refine ⟨by rw [List.length_append]; omega, ?_⟩
    rw [List.length_append, List.take_add, List.drop_drop, first.same, second.same]

/-! ### Parts and numbers -/

theorem part?_of_holdsAt {data : Bytes} {offset : Nat} {field : Octets}
    (h : HoldsAt data.toList offset field) :
    data.part? offset field.length = some (.ofList field) := by
  rw [Bytes.part?_eq_some_iff, Bytes.toList_ofList]
  exact ⟨h.inside, h.same.symm⟩

namespace Region

variable {data : Bytes} {base offset : Nat} {name : String}

theorem bytes_of_holdsAt {field : Octets} {len : Nat} (h : HoldsAt data.toList offset field)
    (size : field.length = len) : bytes ⟨data, base⟩ name offset len = .ok field := by
  subst size
  exact bytes_eq_ok_iff.2 ⟨h.inside, h.same.symm⟩

theorem number_of_holdsAt {width n : Nat}
    (h : HoldsAt data.toList offset (Octets.ofNat width n)) :
    number ⟨data, base⟩ name offset width = .ok (n % 256 ^ width) := by
  rw [number, bytes_of_holdsAt h (Octets.length_ofNat width n), Except.map, Octets.toNat_ofNat]

/-- A single byte is the number it is. -/
theorem number_of_holdsAt_byte {b : UInt8} (h : HoldsAt data.toList offset [b]) :
    number ⟨data, base⟩ name offset 1 = .ok b.toNat := by
  rw [number, show bytes ⟨data, base⟩ name offset 1 = .ok [b] from bytes_of_holdsAt h rfl]
  rfl

theorem toInt32_ofInt32 (n : Int32) : Octets.toInt32 (Octets.ofInt32 n) = n := by
  rw [Octets.toInt32, Octets.ofInt32, Octets.toNat_ofNat,
    Nat.mod_eq_of_lt (show n.toUInt32.toNat < 256 ^ 4 from n.toUInt32.toNat_lt),
    UInt32.ofNat_toNat]
  rfl

theorem int32_of_holdsAt {n : Int32} (h : HoldsAt data.toList offset (Octets.ofInt32 n)) :
    int32 ⟨data, base⟩ name offset = .ok n := by
  rw [int32, bytes_of_holdsAt h (Octets.length_ofNat ..), Except.map, toInt32_ofInt32]

/-- A number written in four bytes is read as its balanced remainder. -/
theorem toInt_toInt32_ofNat (n : Nat) :
    (Octets.toInt32 (Octets.ofNat 4 n)).toInt = (n : Int).bmod (2 ^ 32) := by
  rw [Octets.toInt32, Octets.toNat_ofNat]
  show (BitVec.ofNat 32 (n % 256 ^ 4)).toInt = (n : Int).bmod (2 ^ 32)
  rw [BitVec.toInt_ofNat', Int.natCast_emod]
  exact Int.emod_bmod ..

/-- The number of records is read back if its remainder is not negative. -/
theorem count_of_holdsAt {n count : Nat} (h : HoldsAt data.toList offset (Octets.ofNat 4 n))
    (announced : (n : Int).bmod (2 ^ 32) = count) :
    Region.count ⟨data, base⟩ name offset = .ok count := by
  have read : int32 ⟨data, base⟩ name offset = .ok (Octets.toInt32 (Octets.ofNat 4 n)) := by
    rw [int32, bytes_of_holdsAt h (Octets.length_ofNat ..), Except.map]
  have nonneg : ¬(count : Int) < 0 := by omega
  simp only [Region.count, read, bind, Except.bind, toInt_toInt32_ofNat, announced, if_neg nonneg,
    pure, Except.pure, Int.toNat_natCast]

end Region

/-! ### Texts -/

theorem length_encode (s : String) : (Utf8.encode s).length = s.utf8ByteSize := by
  have bytes : s.toByteArray = (Utf8.encode s).toByteArray := by
    conv => lhs; rw [← String.ofList_toList (s := s)]
    rfl
  rw [String.utf8ByteSize, bytes, List.size_toByteArray]

/-- A text that a field of some width gives back: it has no zero character, and room is left for
the zero byte after it. -/
structure FitsField (width : Nat) (s : String) : Prop where
  /-- No character is the zero character. -/
  noZero : '\x00' ∉ s.toList
  /-- The bytes are fewer than the field has. -/
  short : s.utf8ByteSize < width

theorem FitsField.zero_notMem {width : Nat} {s : String} (h : FitsField width s) :
    0 ∉ Utf8.encode s := Utf8.zero_notMem_encodeChars h.noZero

theorem beforeZero_terminated {width : Nat} {content : Octets} (short : content.length < width)
    (noZero : 0 ∉ content) : (Octets.terminated width content).beforeZero = content := by
  have all : ∀ b ∈ content, (b != 0) = true := fun b mem => by
    simpa using fun zero : b = 0 => noZero (zero ▸ mem)
  have room : width - content.length = (width - content.length - 1) + 1 := by omega
  rw [Octets.terminated, List.take_of_length_le (by omega), Octets.beforeZero,
    List.takeWhile_append_of_pos all, room, Octets.zeros, List.replicate_succ]
  simp

theorem Region.text_of_holdsAt {data : Bytes} {base offset width : Nat} {name s : String}
    (h : HoldsAt data.toList offset (Octets.terminated width (Utf8.encode s)))
    (fits : FitsField width s) : text ⟨data, base⟩ name offset width = .ok s := by
  have short : (Utf8.encode s).length < width := length_encode s ▸ fits.short
  rw [text, bytes_of_holdsAt h (Octets.length_terminated ..), Except.map,
    beforeZero_terminated short fits.zero_notMem, Utf8.decodeLossy_encode]

/-! ### Tables -/

section Tables

variable {ε α β : Type} {items : List α} {write : α → Octets} {width : Nat}

theorem length_flatMap_const (size : ∀ a ∈ items, (write a).length = width) :
    (items.flatMap write).length = items.length * width := by
  induction items with
  | nil => simp
  | cons a rest ih =>
    rw [List.flatMap_cons, List.length_append, size a List.mem_cons_self,
      ih fun b mem => size b (List.mem_cons_of_mem a mem), List.length_cons, Nat.succ_mul,
      Nat.add_comm]

/-- Among records of one width, each stands at its multiple of that width. -/
theorem holdsAt_getElem {data : Octets} {start : Nat} (h : HoldsAt data start (items.flatMap write))
    (size : ∀ a ∈ items, (write a).length = width) (k : Nat) (inside : k < items.length) :
    HoldsAt data (start + k * width) (write items[k]) := by
  induction items generalizing start k with
  | nil => exact absurd inside (Nat.not_lt_zero k)
  | cons a rest ih =>
    rw [List.flatMap_cons, holdsAt_append, size a List.mem_cons_self] at h
    cases k with
    | zero => simpa using h.1
    | succ k =>
      have later := ih h.2 (fun b mem => size b (List.mem_cons_of_mem a mem)) k
        (Nat.lt_of_succ_lt_succ inside)
      rwa [Nat.add_assoc, Nat.add_comm width, ← Nat.succ_mul] at later

/-- The first records of a table are read back if each of them is. -/
theorem records_take_of_holdsAt {data : Octets} {start count : Nat} {read : Nat → Except ε β}
    {value : α → β} (h : HoldsAt data start (items.flatMap write))
    (size : ∀ a ∈ items, (write a).length = width) (few : count ≤ items.length)
    (each : ∀ k, (inside : k < items.length) →
      HoldsAt data (start + k * width) (write items[k]) → read k = .ok (value items[k])) :
    Region.records read count = .ok ((items.map value).take count) := by
  rw [Region.records_eq_ok_iff]
  refine ⟨List.length_take_of_le (by simpa using few), fun k inside => ?_⟩
  rw [List.getElem_take, List.getElem_map]
  exact each k _ (holdsAt_getElem h size k _)

/-- A table is read back if each of its records is. -/
theorem records_of_holdsAt {data : Octets} {start : Nat} {read : Nat → Except ε β} {value : α → β}
    (h : HoldsAt data start (items.flatMap write))
    (size : ∀ a ∈ items, (write a).length = width)
    (each : ∀ k, (inside : k < items.length) →
      HoldsAt data (start + k * width) (write items[k]) → read k = .ok (value items[k])) :
    Region.records read items.length = .ok (items.map value) := by
  rw [records_take_of_holdsAt h size (Nat.le_refl _) each, List.take_of_length_le (by simp)]

end Tables

end FpgaHost
