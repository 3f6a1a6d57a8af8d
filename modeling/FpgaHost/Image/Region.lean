import FpgaHost.Bytes
import FpgaHost.Image.Error

/-!
# Regions

Fields are read from a region: a run of bytes that knows where in the image it begins, so that an
error can name the place. A field that does not fit in its region is an error that says what is
needed and what is there; nothing is read past the end.

A table is read record by record, by a reader of the record at a position, up to the first record
that cannot be read (`records_eq_ok_iff`, `records_eq_error_iff`).
-/

namespace FpgaHost

/-- Bytes and the offset in the image at which they begin. -/
structure Region where
  /-- The bytes. -/
  data : Bytes
  /-- Where they begin. -/
  base : Nat := 0
  deriving DecidableEq, Repr

namespace Region

/-! ### Places -/

/-- The last address that eight bytes can say. -/
def lastAddress : Nat := UInt64.size - 1

/-- Where an offset of a region lies in the image, as an address. What would lie behind the last
address is reported there. -/
def place (r : Region) (offset : Nat) : Nat := min (r.base + offset) lastAddress

/-! ### Fields -/

/-- The `len` bytes of a field at an offset of the region. -/
def bytes (r : Region) (field : String) (offset len : Nat) : Except ImageError Octets :=
  match r.data.part? offset len with
  | some part => .ok part.toList
  | none => .error (.truncated field (r.place offset) len (r.data.size - offset))

/-- An unsigned number of `width` bytes. -/
def number (r : Region) (field : String) (offset width : Nat) : Except ImageError Nat :=
  (r.bytes field offset width).map Octets.toNat

/-- A signed number of four bytes. -/
def int32 (r : Region) (field : String) (offset : Nat) : Except ImageError Int32 :=
  (r.bytes field offset 4).map Octets.toInt32

/-- A text field of `width` bytes: its content ends at the first zero byte. -/
def text (r : Region) (field : String) (offset width : Nat) : Except ImageError String :=
  (r.bytes field offset width).map fun part => Utf8.decodeLossy part.beforeZero

/-- The number of records that a table announces. -/
def count (r : Region) (table : String) (offset : Nat) : Except ImageError Nat := do
  let n ← r.int32 table offset
  if n.toInt < 0 then throw (.manifest (.negativeCount table n.toInt))
  return n.toInt.toNat

theorem bytes_eq_ok_iff {r : Region} {field : String} {offset len : Nat} {part : Octets} :
    r.bytes field offset len = .ok part ↔
      offset + len ≤ r.data.size ∧ part = (r.data.toList.drop offset).take len := by
  unfold bytes
  split
  · rename_i stored found
    rw [Bytes.part?_eq_some_iff] at found
    simp [found, eq_comm]
  · rename_i absent
    rw [Bytes.part?_eq_none_iff] at absent
    simp only [reduceCtorEq, false_iff, not_and]
    omega

/-! ### Tables -/

variable {ε α : Type}

/-- Reads `count` more records, the next one at a position; those read so far come last first. -/
def recordsFrom (read : Nat → Except ε α) (position : Nat) (done : List α) :
    (count : Nat) → Except ε (List α)
  | 0 => .ok done.reverse
  | count + 1 =>
    match read position with
    | .ok record => recordsFrom read (position + 1) (record :: done) count
    | .error e => .error e

/-- The `count` records of a table. -/
def records (read : Nat → Except ε α) (count : Nat) : Except ε (List α) :=
  recordsFrom read 0 [] count

theorem recordsFrom_eq_ok_iff {read : Nat → Except ε α} {position count : Nat} {done rs : List α} :
    recordsFrom read position done count = .ok rs ↔
      ∃ rest, rs = done.reverse ++ rest ∧ rest.length = count ∧
        ∀ i, (h : i < rest.length) → read (position + i) = .ok rest[i] := by
  induction count generalizing position done with
  | zero =>
    constructor
    · rintro ⟨⟩
      exact ⟨[], by simp, rfl, by simp⟩
    · rintro ⟨rest, rfl, size, _⟩
      simp [recordsFrom, List.eq_nil_of_length_eq_zero size]
  | succ count ih =>
    have shift (i : Nat) : position + 1 + i = position + (i + 1) := by omega
    unfold recordsFrom
    split
    · rename_i record found
      simp only [ih, shift]
      constructor
      · rintro ⟨rest, rfl, size, all⟩
        refine ⟨record :: rest, by simp, by simp [size], fun i h => ?_⟩
        cases i with
        | zero => exact found
        | succ i => exact all i (by simpa using h)
      · rintro ⟨rest, rfl, size, all⟩
        cases rest with
        | nil => simp at size
        | cons first rest =>
          have same : record = first := Except.ok.inj (found.symm.trans (all 0 (by simp)))
          exact ⟨rest, by simp [same], by simpa using size, fun i h => all (i + 1) (by simpa using h)⟩
    · rename_i e failed
      simp only [reduceCtorEq, false_iff]
      rintro ⟨rest, _, size, all⟩
      have found := all 0 (by omega)
      simp [failed] at found

theorem records_eq_ok_iff {read : Nat → Except ε α} {count : Nat} {rs : List α} :
    records read count = .ok rs ↔
      rs.length = count ∧ ∀ i, (h : i < rs.length) → read i = .ok rs[i] := by
  simp [records, recordsFrom_eq_ok_iff]

theorem recordsFrom_eq_error_iff {read : Nat → Except ε α} {position count : Nat} {done : List α}
    {e : ε} :
    recordsFrom read position done count = .error e ↔
      ∃ i < count, read (position + i) = .error e ∧
        ∀ j < i, ∃ record, read (position + j) = .ok record := by
  induction count generalizing position done with
  | zero => simp [recordsFrom]
  | succ count ih =>
    have shift (i : Nat) : position + 1 + i = position + (i + 1) := by omega
    unfold recordsFrom
    split
    · rename_i record found
      simp only [ih, shift]
      constructor
      · rintro ⟨i, inside, failed, before⟩
        refine ⟨i + 1, by omega, failed, fun j h => ?_⟩
        cases j with
        | zero => exact ⟨record, found⟩
        | succ j => exact before j (by omega)
      · rintro ⟨i, inside, failed, before⟩
        cases i with
        | zero => simp [found] at failed
        | succ i => exact ⟨i, by omega, failed, fun j h => before (j + 1) (by omega)⟩
    · rename_i first failed
      constructor
      · rintro ⟨⟩
        exact ⟨0, by omega, failed, by simp⟩
      · rintro ⟨i, inside, found, before⟩
        cases i with
        | zero => rw [Except.error.inj (failed.symm.trans found)]
        | succ i =>
          obtain ⟨record, found⟩ := before 0 (by omega)
          simp [failed] at found

theorem records_eq_error_iff {read : Nat → Except ε α} {count : Nat} {e : ε} :
    records read count = .error e ↔
      ∃ i < count, read i = .error e ∧ ∀ j < i, ∃ record, read j = .ok record := by
  simp [records, recordsFrom_eq_error_iff]

end Region

end FpgaHost
