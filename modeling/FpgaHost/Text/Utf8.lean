import FpgaHost.Bytes

/-!
# UTF-8

Text in an image is UTF-8. The module has one machine that reads a byte at a time (`lead` from
between characters, `Pending.step` inside one), and two readings built from it: `decode?` stops at
the first byte that no text continues with and says where and after how many bytes, `decodeLossy`
puts U+FFFD for each such maximal part and goes on.

Since a pending sequence carries the range its next byte must lie in, overlong forms, surrogates
and numbers past U+10FFFF are refused at the earliest byte that rules them out.
-/

namespace FpgaHost.Utf8

/-- A multi-byte sequence of which some bytes are read. -/
structure Pending where
  /-- How many bytes are read. -/
  taken : Nat
  /-- How many bytes are missing. -/
  owed : Nat
  /-- The least value of the next byte. -/
  low : Nat
  /-- The greatest value of the next byte. -/
  high : Nat
  /-- The number that the bytes read so far spell. -/
  value : Nat
  deriving DecidableEq, Repr

/-- What one byte does. -/
inductive Step where
  /-- It completes a character. -/
  | char (c : Char)
  /-- It leaves a sequence pending. -/
  | more (p : Pending)
  /-- No text continues with it. -/
  | refused
  deriving DecidableEq, Repr

/-- The step of a byte between characters. -/
def lead (b : UInt8) : Step :=
  let n := b.toNat
  if n < 0x80 then .char (Char.ofNat n)
  else if n < 0xC2 then .refused
  else if n < 0xE0 then .more ⟨1, 1, 0x80, 0xBF, n - 0xC0⟩
  else if n = 0xE0 then .more ⟨1, 2, 0xA0, 0xBF, 0⟩
  else if n = 0xED then .more ⟨1, 2, 0x80, 0x9F, 0xD⟩
  else if n < 0xF0 then .more ⟨1, 2, 0x80, 0xBF, n - 0xE0⟩
  else if n = 0xF0 then .more ⟨1, 3, 0x90, 0xBF, 0⟩
  else if n < 0xF4 then .more ⟨1, 3, 0x80, 0xBF, n - 0xF0⟩
  else if n = 0xF4 then .more ⟨1, 3, 0x80, 0x8F, 4⟩
  else .refused

/-- The step of a byte inside a sequence. -/
def Pending.step (p : Pending) (b : UInt8) : Step :=
  let n := b.toNat
  if n < p.low || p.high < n then .refused
  else
    let value := p.value * 64 + (n - 0x80)
    if p.owed ≤ 1 then .char (Char.ofNat value)
    else .more ⟨p.taken + 1, p.owed - 1, 0x80, 0xBF, value⟩

/-! ### Strict reading -/

/-- Why bytes are no text. -/
inductive DecodeError where
  /-- The `length` bytes from `index` begin a sequence that the next byte does not continue. -/
  | invalid (length index : Nat)
  /-- The input ends inside the sequence that begins at `index`. -/
  | incomplete (index : Nat)
  deriving DecidableEq, Repr

/-- The wording of a decoding error. -/
def DecodeError.message : DecodeError → String
  | .invalid length index => s!"invalid utf-8 sequence of {length} bytes from index {index}"
  | .incomplete index => s!"incomplete utf-8 byte sequence from index {index}"

/-- How far a strict reading has come. -/
structure Reading where
  /-- The characters read, the last one first. -/
  chars : List Char := []
  /-- The index at which the current sequence begins. -/
  start : Nat := 0
  /-- The current sequence, if some bytes of it are read. -/
  pending : Option Pending := none
  deriving DecidableEq, Repr

namespace Reading

/-- The reading after one more byte. -/
def step (r : Reading) (b : UInt8) : Except DecodeError Reading :=
  match r.pending with
  | none =>
    match lead b with
    | .char c => .ok { chars := c :: r.chars, start := r.start + 1 }
    | .more p => .ok { r with pending := some p }
    | .refused => .error (.invalid 1 r.start)
  | some p =>
    match p.step b with
    | .char c => .ok { chars := c :: r.chars, start := r.start + p.taken + 1 }
    | .more q => .ok { r with pending := some q }
    | .refused => .error (.invalid p.taken r.start)

/-- The characters of a reading that ends here. -/
def text (r : Reading) : Except DecodeError (List Char) :=
  match r.pending with
  | none => .ok r.chars.reverse
  | some _ => .error (.incomplete r.start)

end Reading

/-- The characters that the bytes spell, or the first reason why they spell none. -/
def decode? (data : Bytes) : Except DecodeError (List Char) := do
  (← data.foldlM Reading.step {}).text

theorem decode?_eq (data : Bytes) :
    decode? data = (data.toList.foldlM Reading.step {}).bind Reading.text := by
  rw [decode?, Bytes.foldlM_eq]
  rfl

/-! ### Lossy reading -/

/-- Stands for a part that is no text. -/
def replacement : Char := '\uFFFD'

/-- Reads the rest of a text, with U+FFFD for each maximal part that is none. -/
def lossyFrom : Option Pending → Octets → List Char
  | none, [] => []
  | some _, [] => [replacement]
  | none, b :: rest =>
    match lead b with
    | .char c => c :: lossyFrom none rest
    | .more p => lossyFrom (some p) rest
    | .refused => replacement :: lossyFrom none rest
  | some p, b :: rest =>
    match p.step b with
    | .char c => c :: lossyFrom none rest
    | .more q => lossyFrom (some q) rest
    | .refused =>
      -- the byte that broke the sequence may begin the next one
      match lead b with
      | .char c => replacement :: c :: lossyFrom none rest
      | .more q => replacement :: lossyFrom (some q) rest
      | .refused => replacement :: replacement :: lossyFrom none rest

/-- The text of the bytes, with U+FFFD for each maximal part that is no text. -/
def decodeLossy (data : Octets) : String := String.ofList (lossyFrom none data)

/-! ### Writing -/

/-- The bytes of a sequence of characters. -/
def encodeChars (text : List Char) : Octets := text.flatMap String.utf8EncodeChar

/-- The bytes of a text. -/
def encode (text : String) : Octets := encodeChars text.toList

end FpgaHost.Utf8
