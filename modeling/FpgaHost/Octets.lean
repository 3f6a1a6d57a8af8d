/-!
# Octets

The bytes of a field, of a record or of a text, one by one. This module fixes how numbers and text
fields are written in them: a number takes a fixed width, least significant byte first, and a text
field is cut so that a zero byte always ends it.
-/

namespace FpgaHost

/-- The bytes of a field, a record or a text. -/
abbrev Octets := List UInt8

namespace Octets

/-! ### Numbers -/

/-- The `width` low bytes of a number, least significant first. -/
def ofNat : (width : Nat) → Nat → Octets
  | 0, _ => []
  | width + 1, n => UInt8.ofNat n :: ofNat width (n / 256)

/-- The number that octets denote, least significant byte first. -/
def toNat : Octets → Nat
  | [] => 0
  | b :: rest => b.toNat + 256 * toNat rest

@[simp] theorem length_ofNat (width n : Nat) : (ofNat width n).length = width := by
  induction width generalizing n with
  | zero => rfl
  | succ width ih => simp [ofNat, ih]

/-- The two's complement reading of a four-byte number. -/
def toInt32 (data : Octets) : Int32 := (UInt32.ofNat (toNat data)).toInt32

/-- The four bytes of a signed number in two's complement. -/
def ofInt32 (n : Int32) : Octets := ofNat 4 n.toUInt32.toNat

/-! ### Text fields -/

/-- A run of `n` zero bytes. -/
def zeros (n : Nat) : Octets := List.replicate n 0

@[simp] theorem length_zeros (n : Nat) : (zeros n).length = n := by simp [zeros]

/-- A field of `width` bytes: the content, cut to leave room for a zero byte, then zero bytes. -/
def terminated (width : Nat) (content : Octets) : Octets :=
  content.take (width - 1) ++ zeros (width - (content.take (width - 1)).length)

@[simp] theorem length_terminated (width : Nat) (content : Octets) :
    (terminated width content).length = width := by
  simp only [terminated, List.length_append, List.length_take, length_zeros]
  omega

/-- The content of a text field: everything before the first zero byte. -/
def beforeZero (field : Octets) : Octets := field.takeWhile (· != 0)

/-! ### Alignment -/

/-- The next multiple of eight. -/
def align8 (n : Nat) : Nat := (n + 7) / 8 * 8

theorem le_align8 (n : Nat) : n ≤ align8 n := by unfold align8; omega

theorem align8_mod (n : Nat) : align8 n % 8 = 0 := by unfold align8; omega

/-- A payload followed by the zero bytes that bring its length to a multiple of eight. -/
def padded8 (data : Octets) : Octets := data ++ zeros (align8 data.length - data.length)

@[simp] theorem length_padded8 (data : Octets) : (padded8 data).length = align8 data.length := by
  have := le_align8 data.length
  simp [padded8]; omega

end Octets

end FpgaHost
