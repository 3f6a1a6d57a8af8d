import FpgaHost.Image.Header
import FpgaHost.Image.Memory
import FpgaHost.Proofs.Outcome

/-!
# Records in their slots

Three tables of an image hold records of one width side by side: the directory, the topology and
the connectivity table. They differ in where the first record stands, in what a slot says and in the
parts of a record that are checked to be there, which is the record as a whole or one field after
the other. A `SlotFormat` says this, and a reader that keeps to a format (`Reads`) refuses a record
for the first of its parts that the region does not hold.

A sound format checks the last byte of its slot and nothing behind it. A table in such a format is
read exactly if it has no record or its last one fits, and otherwise it is refused for the first
record that does not (`SlotFormat.readsTable`).
-/

namespace FpgaHost

/-- The `width` bytes from an offset on, as far as there are any. -/
def Octets.field (data : Octets) (offset width : Nat) : Octets := (data.drop offset).take width

/-- A field of a slot is a field of the bytes that the slot was taken from. -/
theorem Octets.field_field {extent offset width : Nat} (inside : offset + width ≤ extent)
    (data : Octets) (start : Nat) :
    (data.field start extent).field offset width = data.field (start + offset) width := by
  have shorter : min width (extent - offset) = width := by omega
  rw [field, field, field, List.drop_take, List.take_take, List.drop_drop, shorter]

/-! ### Fields of a region -/

namespace Region

variable {r : Region} {name : String} {offset len : Nat}

theorem bytes_of_fits (fits : offset + len ≤ r.data.size) :
    r.bytes name offset len = .ok (r.data.toList.field offset len) :=
  bytes_eq_ok_iff.2 ⟨fits, rfl⟩

theorem bytes_of_not_fits (cut : r.data.size < offset + len) :
    r.bytes name offset len =
      .error (.truncated name (r.place offset) len (r.data.size - offset)) := by
  rw [bytes, Bytes.part?_eq_none_iff.2 cut]

theorem number_of_fits (fits : offset + len ≤ r.data.size) :
    r.number name offset len = .ok (r.data.toList.field offset len).toNat := by
  rw [number, bytes_of_fits fits, Except.map]

theorem int32_of_fits (fits : offset + 4 ≤ r.data.size) :
    r.int32 name offset = .ok (r.data.toList.field offset 4).toInt32 := by
  rw [int32, bytes_of_fits fits, Except.map]

theorem int32_of_not_fits (cut : r.data.size < offset + 4) :
    r.int32 name offset = .error (.truncated name (r.place offset) 4 (r.data.size - offset)) := by
  rw [int32, bytes_of_not_fits cut, Except.map]

theorem text_of_fits (fits : offset + len ≤ r.data.size) :
    r.text name offset len =
      .ok (Utf8.decodeLossy (r.data.toList.field offset len).beforeZero) := by
  rw [text, bytes_of_fits fits, Except.map]

end Region

/-! ### Formats -/

/-- A part of a record that is checked to be there as one. -/
structure Span where
  /-- What an error calls it. -/
  name : String
  /-- Where it begins in the record. -/
  offset : Nat
  /-- How many bytes it takes. -/
  width : Nat

/-- How the records of a table stand in it and what they say. -/
structure SlotFormat (α : Type) where
  /-- Where the first record begins. -/
  start : Nat
  /-- How many bytes a record takes. -/
  width : Nat
  /-- What is checked to be there, in order. -/
  spans : List Span
  /-- What the bytes of a record say at a position. -/
  decode : Nat → Octets → α

namespace SlotFormat

variable {α : Type}

/-- A format checks the last byte of its slot and nothing behind it. -/
structure Sound (f : SlotFormat α) : Prop where
  /-- No part runs into the next slot. -/
  within : ∀ p ∈ f.spans, p.offset + p.width ≤ f.width
  /-- Some part ends where the slot does. -/
  ends : ∃ p ∈ f.spans, p.offset + p.width = f.width

variable (f : SlotFormat α) (r : Region)

/-- Where the record at a position begins. -/
def offsetOf (position : Nat) : Nat := f.start + position * f.width

/-- The region holds the record at a position. -/
def Fits (position : Nat) : Prop := f.offsetOf position + f.width ≤ r.data.size

/-- The record at a position. -/
def record (position : Nat) : α :=
  f.decode position (r.data.toList.field (f.offsetOf position) f.width)

/-- The records of a table that has a number of them. -/
def table (count : Nat) : List α := (List.range count).map (f.record r)

/-- The error for a part of the record at a position. -/
def truncated (position : Nat) (p : Span) : ImageError :=
  .truncated p.name (r.place (f.offsetOf position + p.offset)) p.width
    (r.data.size - (f.offsetOf position + p.offset))

/-- The error for the first part of the record at a position that the region does not hold. -/
def missing? (position : Nat) : Option ImageError :=
  (f.spans.find? fun p => decide (r.data.size < f.offsetOf position + p.offset + p.width)).map
    (f.truncated r position)

/-- The outcome of a record: what it says, unless a part of it is missing. -/
def outcome (position : Nat) : Except ImageError α :=
  match f.missing? r position with
  | none => .ok (f.record r position)
  | some e => .error e

variable {f r} {position : Nat}

/-- A field of a record that fits lies in the region. -/
theorem Fits.inside (fits : f.Fits r position) {offset width : Nat}
    (within : offset + width ≤ f.width) : f.offsetOf position + offset + width ≤ r.data.size := by
  have whole : f.offsetOf position + f.width ≤ r.data.size := fits
  omega

theorem missing?_eq_none_iff (sound : f.Sound) :
    f.missing? r position = none ↔ f.Fits r position := by
  simp only [missing?, Option.map_eq_none_iff, List.find?_eq_none, decide_eq_true_eq, Fits]
  constructor
  · intro all
    obtain ⟨last, mem, ends⟩ := sound.ends
    have there := all last mem
    omega
  · intro fits p mem
    have inside := sound.within p mem
    omega

theorem outcome_of_fits (sound : f.Sound) (fits : f.Fits r position) :
    f.outcome r position = .ok (f.record r position) := by
  rw [outcome, (missing?_eq_none_iff sound).2 fits]

/-- A part is the first that is missing if the region holds those before it. -/
theorem outcome_of_missing (before : List Span) (p : Span) {after : List Span}
    (spans : f.spans = before ++ p :: after)
    (held : ∀ q ∈ before, f.offsetOf position + q.offset + q.width ≤ r.data.size)
    (cut : r.data.size < f.offsetOf position + p.offset + p.width) :
    f.outcome r position = .error (f.truncated r position p) := by
  have first : f.spans.find? (fun q =>
      decide (r.data.size < f.offsetOf position + q.offset + q.width)) = some p := by
    rw [List.find?_eq_some_iff_append]
    refine ⟨decide_eq_true cut, before, after, spans, fun q mem => ?_⟩
    simpa using held q mem
  rw [outcome, missing?, first, Option.map_some]

/-- A record that does not fit is refused for the first of its parts that is missing. -/
theorem outcome_of_not_fits (sound : f.Sound) (cut : ¬f.Fits r position) :
    ∃ e, f.missing? r position = some e ∧ f.outcome r position = .error e := by
  rw [← missing?_eq_none_iff sound, ← ne_eq, Option.ne_none_iff_exists'] at cut
  obtain ⟨e, missing⟩ := cut
  exact ⟨e, missing, by rw [outcome, missing]⟩

/-- The last record fits exactly if all records do. -/
theorem forall_fits_iff {count : Nat} :
    (∀ i < count, f.Fits r i) ↔ count = 0 ∨ f.start + count * f.width ≤ r.data.size := by
  simp only [Fits, offsetOf]
  constructor
  · intro all
    cases count with
    | zero => exact .inl rfl
    | succ n =>
      have last := all n (Nat.lt_succ_self n)
      rw [Nat.succ_mul]
      exact .inr (by omega)
  · rintro (rfl | room) i below
    · exact absurd below (Nat.not_lt_zero i)
    · have stride : (i + 1) * f.width ≤ count * f.width := Nat.mul_le_mul_right f.width below
      rw [Nat.succ_mul] at stride
      omega

/-- If a record of a table does not fit, then there is a first one. -/
theorem exists_first_not_fits {count : Nat} (cut : ¬∀ i < count, f.Fits r i) :
    ∃ i < count, ¬f.Fits r i ∧ ∀ j < i, f.Fits r j := by
  induction count with
  | zero => exact absurd (fun i below => absurd below (Nat.not_lt_zero i)) cut
  | succ n ih =>
    by_cases before : ∀ i < n, f.Fits r i
    · refine ⟨n, Nat.lt_succ_self n, fun fits => cut fun i below => ?_, before⟩
      rcases Nat.lt_succ_iff_lt_or_eq.1 below with below | rfl
      · exact before i below
      · exact fits
    · obtain ⟨i, below, first⟩ := ih before
      exact ⟨i, Nat.lt_succ_of_lt below, first⟩

/-! ### Readers -/

/-- A reader of the record at a position keeps to a format. -/
def Reads (f : SlotFormat α) (r : Region) (read : Nat → Except ImageError α) : Prop :=
  ∀ position, read position = f.outcome r position

variable {read : Nat → Except ImageError α} {count : Nat}

/-- A reader that checks a record as a whole keeps to the format that has no other part, if it reads
the record where that is there. -/
theorem reads_of_whole {name : String} {rest : Nat → Except ImageError α} (sound : f.Sound)
    (spans : f.spans = [⟨name, 0, f.width⟩])
    (checked : ∀ position, read position =
      (r.bytes name (f.offsetOf position) f.width >>= fun _ => rest position))
    (held : ∀ position, f.Fits r position → rest position = .ok (f.record r position)) :
    f.Reads r read := by
  intro position
  rw [checked position]
  by_cases fits : f.Fits r position
  · rw [outcome_of_fits sound fits, Region.bytes_of_fits fits, ok_bind, held position fits]
  · have cut : r.data.size < f.offsetOf position + f.width := Nat.lt_of_not_le fits
    rw [outcome_of_missing [] ⟨name, 0, f.width⟩ spans (by simp) cut, Region.bytes_of_not_fits cut]
    rfl

/-- What reading a table of a number of records comes to. -/
structure ReadsTable (f : SlotFormat α) (r : Region) (count : Nat)
    (outcome : Except ImageError (List α)) : Prop where
  /-- A table whose last record fits is read as its records, one from each slot. -/
  whole : count = 0 ∨ f.start + count * f.width ≤ r.data.size → outcome = .ok (f.table r count)
  /-- Any other table is refused for the first part that is missing of its first record that does
  not fit. -/
  cut : ¬(count = 0 ∨ f.start + count * f.width ≤ r.data.size) →
    ∃ i < count, (∀ j < i, f.Fits r j) ∧ ∃ e, f.missing? r i = some e ∧ outcome = .error e

theorem readsTable (reads : f.Reads r read) (sound : f.Sound) :
    f.ReadsTable r count (Region.records read count) where
  whole := by
    intro room
    rw [Region.records_eq_ok_iff]
    refine ⟨by simp [table], fun i below => ?_⟩
    have below_count : i < count := by simpa [table] using below
    rw [reads i, outcome_of_fits sound (forall_fits_iff.2 room i below_count)]
    simp [table]
  cut := by
    intro cut
    rw [← forall_fits_iff] at cut
    obtain ⟨i, below, not_fits, before⟩ := exists_first_not_fits cut
    obtain ⟨e, missing, refused⟩ := outcome_of_not_fits sound not_fits
    have failed : read i = .error e := (reads i).trans refused
    refine ⟨i, below, before, e, missing, Region.records_eq_error_iff.2 ⟨i, below, failed, ?_⟩⟩
    intro j first
    exact ⟨f.record r j, by rw [reads j, outcome_of_fits sound (before j first)]⟩

/-- A table is accepted exactly if the region holds the records that it has. -/
theorem ReadsTable.exists_ok_iff {outcome : Except ImageError (List α)}
    (table : f.ReadsTable r count outcome) :
    (∃ records, outcome = .ok records) ↔ count = 0 ∨ f.start + count * f.width ≤ r.data.size := by
  constructor
  · rintro ⟨records, rfl⟩
    refine Decidable.byContradiction fun cut => ?_
    obtain ⟨i, -, -, e, -, refused⟩ := table.cut cut
    contradiction
  · exact fun room => ⟨_, table.whole room⟩

end SlotFormat

end FpgaHost
