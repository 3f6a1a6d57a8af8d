import FpgaHost.Octets

/-!
# Stored bytes

Images, payloads, buffer memories and the contents of files are stored packed, so that they can be
large and a part of them is reached at once. What they hold is the list `toList`; every operation is
described by an equation through it.

Main statements: `part?_eq_some_iff` (a part exists exactly when it fits), `toList_overwrite` and
`size_overwrite` (an overwrite replaces bytes and keeps the size), `toList_zeros`, `toList_map`,
`toList_zipWith`, `foldlM_eq` and `toList_withoutTrailingZeros`.
-/

namespace FpgaHost

/-- A stored sequence of bytes. -/
structure Bytes where
  /-- The bytes in packed form. -/
  packed : ByteArray

namespace Bytes

/-! ### The view -/

/-- The bytes one by one. -/
def toList (data : Bytes) : Octets := data.packed.data.toList

/-- The number of bytes. -/
def size (data : Bytes) : Nat := data.packed.size

/-- Stores octets. -/
def ofList (octets : Octets) : Bytes := ⟨octets.toByteArray⟩

instance : Repr Bytes := ⟨fun data => reprPrec data.toList⟩

instance : DecidableEq Bytes
  | ⟨a⟩, ⟨b⟩ =>
    match ByteArray.instDecidableEq a b with
    | isTrue same => isTrue (congrArg mk same)
    | isFalse differ => isFalse fun same => differ (congrArg packed same)

@[simp] theorem length_toList (data : Bytes) : data.toList.length = data.size := rfl

theorem ext_toList {a b : Bytes} (h : a.toList = b.toList) : a = b := by
  cases a
  cases b
  congr
  exact ByteArray.ext (Array.toList_inj.1 h)

theorem toList_inj {a b : Bytes} : a.toList = b.toList ↔ a = b :=
  ⟨ext_toList, congrArg toList⟩

@[simp] theorem toList_ofList (octets : Octets) : (ofList octets).toList = octets := by
  simp [ofList, toList]

@[simp] theorem ofList_toList (data : Bytes) : ofList data.toList = data :=
  ext_toList (toList_ofList _)

@[simp] theorem size_ofList (octets : Octets) : (ofList octets).size = octets.length := by
  rw [← length_toList, toList_ofList]

/-- The byte at a position; zero past the end. -/
def byteAt (data : Bytes) (i : Nat) : UInt8 :=
  if h : i < data.packed.size then data.packed[i] else 0

theorem byteAt_eq_getElem (data : Bytes) {i : Nat} (h : i < data.toList.length) :
    data.byteAt i = data.toList[i] := by
  have inside : i < data.packed.size := h
  simp [byteAt, toList, inside, ByteArray.getElem_eq_getElem_data]

/-! ### Parts -/

/-- The `len` bytes from `offset` on, when the sequence holds all of them. -/
def part? (data : Bytes) (offset len : Nat) : Option Bytes :=
  if offset + len ≤ data.size then some ⟨data.packed.extract offset (offset + len)⟩ else none

theorem toList_extract (array : ByteArray) (start stop : Nat) :
    (⟨array.extract start stop⟩ : Bytes).toList =
      ((⟨array⟩ : Bytes).toList.drop start).take (stop - start) := by
  simp [toList, ByteArray.data_extract]

theorem part?_eq_some_iff {data part : Bytes} {offset len : Nat} :
    data.part? offset len = some part ↔
      offset + len ≤ data.size ∧ part.toList = (data.toList.drop offset).take len := by
  have part_eq := toList_extract data.packed offset (offset + len)
  rw [Nat.add_sub_cancel_left] at part_eq
  unfold part?
  split
  · rw [Option.some_inj, ← toList_inj, part_eq, eq_comm]
    exact (and_iff_right ‹_›).symm
  · simp only [reduceCtorEq, false_iff, not_and]
    omega

theorem size_of_part? {data part : Bytes} {offset len : Nat}
    (found : data.part? offset len = some part) : part.size = len := by
  obtain ⟨inside, same⟩ := part?_eq_some_iff.1 found
  rw [← length_toList, same, List.length_take, List.length_drop, length_toList]
  omega

theorem part?_eq_none_iff {data : Bytes} {offset len : Nat} :
    data.part? offset len = none ↔ data.size < offset + len := by
  unfold part?
  split <;> simp <;> omega

/-- The first `n` bytes, or all if there are fewer. -/
def take (data : Bytes) (n : Nat) : Bytes :=
  if n < data.size then ⟨data.packed.extract 0 n⟩ else data

@[simp] theorem toList_take (data : Bytes) (n : Nat) : (data.take n).toList = data.toList.take n := by
  unfold take
  split
  · simp [toList_extract]
  · rename_i h
    rw [List.take_of_length_le]
    simpa using h

@[simp] theorem size_take (data : Bytes) (n : Nat) : (data.take n).size = min n data.size := by
  rw [← length_toList, toList_take, List.length_take, length_toList]

/-! ### Overwriting -/

/-- Writes `patch` over the bytes from `offset` on; what would lie past the end is dropped. -/
def overwrite (data : Bytes) (offset : Nat) (patch : Bytes) : Bytes :=
  if offset < data.size then
    ⟨patch.packed.copySlice 0 data.packed offset (min patch.size (data.size - offset))⟩
  else data

theorem toList_overwrite (data : Bytes) (offset : Nat) (patch : Bytes) :
    (data.overwrite offset patch).toList =
      data.toList.take offset ++ patch.toList.take (data.size - offset) ++
        data.toList.drop (offset + patch.size) := by
  unfold overwrite
  split
  · have cut : patch.toList.take (min patch.size (data.size - offset)) =
        patch.toList.take (data.size - offset) := by
      rw [List.take_eq_take_iff, length_toList]
      omega
    have rest : data.toList.drop (offset + min patch.size (data.size - offset)) =
        data.toList.drop (offset + patch.size) := by
      rw [List.drop_eq_drop_iff, length_toList]
      omega
    rw [← cut, ← rest]
    simp only [toList, ByteArray.copySlice, size, Array.toList_append, Array.toList_extract,
      List.extract_eq_take_drop, List.drop_zero, Nat.sub_zero, Nat.zero_add, ByteArray.size_data]
    rw [List.take_of_length_le (l := data.packed.data.toList.drop _) (by simp),
      Nat.min_eq_left (b := patch.packed.size) (by omega)]
  · rename_i outside
    have none : data.size - offset = 0 := by omega
    rw [none, List.take_of_length_le, List.drop_of_length_le] <;> simp <;> omega

@[simp] theorem size_overwrite (data : Bytes) (offset : Nat) (patch : Bytes) :
    (data.overwrite offset patch).size = data.size := by
  rw [← length_toList, toList_overwrite]
  simp only [List.length_append, List.length_take, List.length_drop, length_toList]
  omega

/-! ### Filling -/

/-- Puts the values of a function behind the bytes so far, `n` of them from position `i` on. -/
@[specialize] def fillFrom (f : Nat → UInt8) (acc : ByteArray) (i : Nat) : (n : Nat) → ByteArray
  | 0 => acc
  | n + 1 => fillFrom f (acc.push (f i)) (i + 1) n

/-- The `n` bytes that a function has at the positions from zero on. -/
@[inline] def tabulate (n : Nat) (f : Nat → UInt8) : Bytes :=
  ⟨fillFrom f (ByteArray.emptyWithCapacity n) 0 n⟩

theorem toList_fillFrom (f : Nat → UInt8) (acc : ByteArray) (i n : Nat) :
    (⟨fillFrom f acc i n⟩ : Bytes).toList =
      (⟨acc⟩ : Bytes).toList ++ (List.range' i n).map f := by
  induction n generalizing acc i with
  | zero => simp [fillFrom]
  | succ n ih =>
    rw [fillFrom, ih]
    simp [toList, ByteArray.data_push, List.range'_succ]

theorem toList_tabulate (n : Nat) (f : Nat → UInt8) :
    (tabulate n f).toList = (List.range n).map f := by
  rw [tabulate, toList_fillFrom, List.range_eq_range']
  rfl

/-- How many zero bytes are put down at a time. -/
def blockSize : Nat := 4096

/-- Puts a block behind the bytes so far, `n` times. -/
def appendTimes (block acc : ByteArray) : (n : Nat) → ByteArray
  | 0 => acc
  | n + 1 => appendTimes block (acc ++ block) n

/-- A sequence of `n` zero bytes: what blocks leave over, then blocks. -/
def zeros (n : Nat) : Bytes :=
  ⟨appendTimes (tabulate blockSize fun _ => 0).packed
    (fillFrom (fun _ => 0) (ByteArray.emptyWithCapacity n) 0 (n % blockSize)) (n / blockSize)⟩

theorem toList_appendTimes (block acc : ByteArray) (n : Nat) :
    (⟨appendTimes block acc n⟩ : Bytes).toList =
      (⟨acc⟩ : Bytes).toList ++ (List.replicate n (⟨block⟩ : Bytes).toList).flatten := by
  induction n generalizing acc with
  | zero => simp [appendTimes]
  | succ n ih =>
    rw [appendTimes, ih]
    simp [toList, ByteArray.data_append, List.replicate_succ]

@[simp] theorem toList_zeros (n : Nat) : (zeros n).toList = Octets.zeros n := by
  rw [zeros, toList_appendTimes, toList_fillFrom]
  have block : (⟨(tabulate blockSize fun _ => 0).packed⟩ : Bytes).toList =
      List.replicate blockSize 0 := by
    rw [toList_tabulate]
    simp [List.map_const']
  have start : (⟨ByteArray.emptyWithCapacity n⟩ : Bytes).toList = [] := rfl
  rw [block, start, List.nil_append]
  simp [Octets.zeros, List.map_const', Nat.mod_add_div']

@[simp] theorem size_zeros (n : Nat) : (zeros n).size = n := by
  rw [← length_toList, toList_zeros, Octets.length_zeros]

/-! ### Byte by byte -/

/-- Every byte under a function. -/
def map (f : UInt8 → UInt8) (data : Bytes) : Bytes :=
  tabulate data.size fun i => f (data.byteAt i)

@[simp] theorem toList_map (f : UInt8 → UInt8) (data : Bytes) :
    (data.map f).toList = data.toList.map f := by
  rw [map, toList_tabulate]
  refine List.ext_getElem (by simp) fun i _ inside => ?_
  have inside : i < data.toList.length := by simpa using inside
  simp [data.byteAt_eq_getElem inside]

/-- The bytes of two sequences under a function, as far as both go. -/
def zipWith (f : UInt8 → UInt8 → UInt8) (a b : Bytes) : Bytes :=
  tabulate (min a.size b.size) fun i => f (a.byteAt i) (b.byteAt i)

@[simp] theorem toList_zipWith (f : UInt8 → UInt8 → UInt8) (a b : Bytes) :
    (zipWith f a b).toList = List.zipWith f a.toList b.toList := by
  rw [zipWith, toList_tabulate]
  refine List.ext_getElem (by simp) fun i _ inside => ?_
  have inside : i < a.toList.length ∧ i < b.toList.length := by
    rw [List.length_zipWith] at inside
    omega
  simp [a.byteAt_eq_getElem inside.1, b.byteAt_eq_getElem inside.2]

/-! ### From the first byte to the last -/

variable {ε β : Type}

/-- Takes `n` bytes from position `i` on into account, one after the other, up to the first
failure. -/
@[specialize] def foldFrom (step : β → UInt8 → Except ε β) (data : Bytes) (b : β) (i : Nat) :
    (n : Nat) → Except ε β
  | 0 => .ok b
  | n + 1 =>
    match step b (data.byteAt i) with
    | .ok b => foldFrom step data b (i + 1) n
    | .error e => .error e

/-- Takes all bytes into account, one after the other, up to the first failure. -/
@[inline] def foldlM (step : β → UInt8 → Except ε β) (b : β) (data : Bytes) : Except ε β :=
  foldFrom step data b 0 data.size

theorem foldFrom_eq (step : β → UInt8 → Except ε β) (data : Bytes) (b : β) {i n : Nat}
    (h : i + n = data.size) :
    foldFrom step data b i n = (data.toList.drop i).foldlM step b := by
  induction n generalizing b i with
  | zero =>
    rw [List.drop_of_length_le (by rw [length_toList]; omega)]
    rfl
  | succ n ih =>
    have inside : i < data.toList.length := by rw [length_toList]; omega
    rw [List.drop_eq_getElem_cons inside, List.foldlM_cons, foldFrom,
      data.byteAt_eq_getElem inside]
    cases step b data.toList[i] with
    | error e => rfl
    | ok b => exact ih b (by omega)

theorem foldlM_eq (step : β → UInt8 → Except ε β) (b : β) (data : Bytes) :
    data.foldlM step b = data.toList.foldlM step b :=
  foldFrom_eq step data b (Nat.zero_add _)

/-! ### Zero bytes at the end -/

/-- How many of the first `n` bytes remain without the zero bytes at their end. -/
def trimmedSize (data : Bytes) : (n : Nat) → Nat
  | 0 => 0
  | n + 1 => if data.byteAt n = 0 then trimmedSize data n else n + 1

/-- The sequence without the zero bytes at its end. -/
def withoutTrailingZeros (data : Bytes) : Bytes := data.take (data.trimmedSize data.size)

theorem take_trimmedSize (data : Bytes) {n : Nat} (h : n ≤ data.size) :
    data.toList.take (data.trimmedSize n) =
      ((data.toList.take n).reverse.dropWhile (· == 0)).reverse := by
  induction n with
  | zero => simp [trimmedSize]
  | succ n ih =>
    have inside : n < data.toList.length := h
    rw [trimmedSize, data.byteAt_eq_getElem inside,
      List.take_succ_eq_append_getElem inside, List.reverse_append]
    split
    · rename_i zero
      simp [zero, ih (by omega)]
    · rename_i nonzero
      simp [nonzero]

@[simp] theorem toList_withoutTrailingZeros (data : Bytes) :
    data.withoutTrailingZeros.toList = (data.toList.reverse.dropWhile (· == 0)).reverse := by
  rw [withoutTrailingZeros, toList_take, take_trimmedSize data (Nat.le_refl _), ← length_toList,
    List.take_length]

end Bytes

end FpgaHost
