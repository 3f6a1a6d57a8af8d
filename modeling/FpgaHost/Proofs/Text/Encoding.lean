import FpgaHost.Text.Utf8

/-!
# What is written as UTF-8 is read back

The machine of `FpgaHost.Text.Utf8` reads the bytes of one character and answers that character:
`Completes` is the run of the machine over such bytes, and `completes_encodeChar` finds one for
every character. Both readings follow a run (`lossyFrom_of_completes`, `foldlM_of_completes`), so
both answer what was written: `decodeLossy_encode` and `decode?_encodeChars`.
-/

namespace FpgaHost.Utf8

/-! ### Runs of the machine -/

/-- The step of a byte, between characters or inside a sequence. -/
def stepFrom : Option Pending → UInt8 → Step
  | none, b => lead b
  | some p, b => p.step b

/-- From a state of the machine, the bytes complete a character. -/
inductive Completes : Option Pending → Octets → Char → Prop where
  /-- The last byte. -/
  | last {o : Option Pending} {b : UInt8} {c : Char} : stepFrom o b = .char c → Completes o [b] c
  /-- A byte that leaves a sequence pending. -/
  | more {o : Option Pending} {b : UInt8} {p : Pending} {rest : Octets} {c : Char} :
      stepFrom o b = .more p → Completes (some p) rest c → Completes o (b :: rest) c

/-! ### The bytes of a character -/

/-- A byte between `0x80` and `0xBF` continues a sequence that leaves room for it. -/
theorem step_tail {taken owed low high value n : Nat} (above : low ≤ n % 64 + 0x80)
    (below : n % 64 + 0x80 ≤ high) :
    Pending.step ⟨taken, owed, low, high, value⟩ (UInt8.ofNat (n % 64 + 0x80)) =
      if owed ≤ 1 then .char (Char.ofNat (value * 64 + n % 64))
      else .more ⟨taken + 1, owed - 1, 0x80, 0xBF, value * 64 + n % 64⟩ := by
  have byte : (UInt8.ofNat (n % 64 + 0x80)).toNat = n % 64 + 0x80 := by
    rw [UInt8.toNat_ofNat']
    omega
  have inside : ¬(n % 64 + 0x80 < low ∨ high < n % 64 + 0x80) := by omega
  simp only [Pending.step, byte, Bool.or_eq_true, decide_eq_true_eq, if_neg inside,
    Nat.add_sub_cancel]

theorem step_inner {taken owed low high value n : Nat} (above : low ≤ n % 64 + 0x80)
    (below : n % 64 + 0x80 ≤ high) :
    stepFrom (some ⟨taken, owed + 2, low, high, value⟩) (UInt8.ofNat (n % 64 + 0x80)) =
      .more ⟨taken + 1, owed + 1, 0x80, 0xBF, value * 64 + n % 64⟩ := by
  rw [stepFrom, step_tail above below, if_neg (by omega)]
  rfl

theorem step_final {taken low high value n : Nat} (above : low ≤ n % 64 + 0x80)
    (below : n % 64 + 0x80 ≤ high) :
    stepFrom (some ⟨taken, 1, low, high, value⟩) (UInt8.ofNat (n % 64 + 0x80)) =
      .char (Char.ofNat (value * 64 + n % 64)) := by
  rw [stepFrom, step_tail above below, if_pos (Nat.le_refl 1)]

theorem lead_one {n : Nat} (h : n ≤ 0x7F) : lead (UInt8.ofNat n) = .char (Char.ofNat n) := by
  have byte : (UInt8.ofNat n).toNat = n := by
    rw [UInt8.toNat_ofNat']
    omega
  simp only [lead, byte]
  rw [if_pos (by omega)]

theorem lead_two {n : Nat} (low : 0x7F < n) (high : n ≤ 0x7FF) :
    lead (UInt8.ofNat (n / 64 % 32 + 0xC0)) = .more ⟨1, 1, 0x80, 0xBF, n / 64⟩ := by
  have byte : (UInt8.ofNat (n / 64 % 32 + 0xC0)).toNat = n / 64 + 0xC0 := by
    rw [UInt8.toNat_ofNat']
    omega
  simp only [lead, byte, Nat.add_sub_cancel]
  rw [if_neg (by omega), if_neg (by omega), if_pos (by omega)]

/-- The lead of a sequence of three bytes bounds the second byte: overlong forms and surrogates
have no second byte. -/
theorem lead_three {n : Nat} (low : 0x7FF < n) (high : n ≤ 0xFFFF)
    (scalar : n < 0xD800 ∨ 0xDFFF < n) :
    ∃ least greatest,
      lead (UInt8.ofNat (n / 4096 % 16 + 0xE0)) = .more ⟨1, 2, least, greatest, n / 4096⟩ ∧
      least ≤ n / 64 % 64 + 0x80 ∧ n / 64 % 64 + 0x80 ≤ greatest := by
  have byte : (UInt8.ofNat (n / 4096 % 16 + 0xE0)).toNat = n / 4096 + 0xE0 := by
    rw [UInt8.toNat_ofNat']
    omega
  simp only [lead, byte, Nat.add_sub_cancel]
  rw [if_neg (by omega), if_neg (by omega), if_neg (by omega)]
  by_cases least : n / 4096 = 0
  · exact ⟨0xA0, 0xBF, by rw [if_pos (by omega), least], by omega, by omega⟩
  rw [if_neg (by omega)]
  by_cases surrogate : n / 4096 = 0xD
  · exact ⟨0x80, 0x9F, by rw [if_pos (by omega), surrogate], by omega, by omega⟩
  · exact ⟨0x80, 0xBF, by rw [if_neg (by omega), if_pos (by omega)], by omega, by omega⟩

/-- The lead of a sequence of four bytes bounds the second byte: overlong forms and numbers past
the last scalar value have none. -/
theorem lead_four {n : Nat} (low : 0xFFFF < n) (high : n < 0x110000) :
    ∃ least greatest,
      lead (UInt8.ofNat (n / 262144 % 8 + 0xF0)) = .more ⟨1, 3, least, greatest, n / 262144⟩ ∧
      least ≤ n / 4096 % 64 + 0x80 ∧ n / 4096 % 64 + 0x80 ≤ greatest := by
  have byte : (UInt8.ofNat (n / 262144 % 8 + 0xF0)).toNat = n / 262144 + 0xF0 := by
    rw [UInt8.toNat_ofNat']
    omega
  simp only [lead, byte, Nat.add_sub_cancel]
  rw [if_neg (by omega), if_neg (by omega), if_neg (by omega), if_neg (by omega),
    if_neg (by omega), if_neg (by omega)]
  by_cases least : n / 262144 = 0
  · exact ⟨0x90, 0xBF, by rw [if_pos (by omega), least], by omega, by omega⟩
  rw [if_neg (by omega)]
  by_cases greatest : n / 262144 = 4
  · exact ⟨0x80, 0x8F, by rw [if_neg (by omega), if_pos (by omega), greatest], by omega, by omega⟩
  · exact ⟨0x80, 0xBF, by rw [if_pos (by omega)], by omega, by omega⟩

theorem scalar_toNat (c : Char) :
    (c.val.toNat < 0xD800 ∨ 0xDFFF < c.val.toNat) ∧ c.val.toNat < 0x110000 := by
  have valid : c.val.toNat < 0xD800 ∨ 0xDFFF < c.val.toNat ∧ c.val.toNat < 0x110000 := c.valid
  omega

/-- The bytes of a character complete it. -/
theorem completes_encodeChar (c : Char) : Completes none (String.utf8EncodeChar c) c := by
  obtain ⟨scalar, bound⟩ := scalar_toNat c
  have back : Char.ofNat c.val.toNat = c := Char.ofNat_toNat c
  generalize number : c.val.toNat = n at *
  unfold String.utf8EncodeChar
  simp only [number]
  split
  · exact .last (by rw [stepFrom, lead_one ‹_›, back])
  split
  · refine .more (lead_two (by omega) ‹_›) (.last ?_)
    rw [step_final (by omega) (by omega), show n / 64 * 64 + n % 64 = n by omega, back]
  split
  · obtain ⟨least, greatest, lead_eq, low, high⟩ := lead_three (by omega) ‹_› scalar
    refine .more lead_eq (.more (step_inner low high) (.last ?_))
    rw [step_final (by omega) (by omega),
      show (n / 4096 * 64 + n / 64 % 64) * 64 + n % 64 = n by omega, back]
  · obtain ⟨least, greatest, lead_eq, low, high⟩ := lead_four (by omega) bound
    refine .more lead_eq (.more (step_inner low high)
      (.more (step_inner (by omega) (by omega)) (.last ?_)))
    rw [step_final (by omega) (by omega),
      show ((n / 262144 * 64 + n / 4096 % 64) * 64 + n / 64 % 64) * 64 + n % 64 = n by omega, back]

/-! ### Lossy reading -/

theorem lossyFrom_of_completes {o : Option Pending} {bytes : Octets} {c : Char}
    (h : Completes o bytes c) (rest : Octets) :
    lossyFrom o (bytes ++ rest) = c :: lossyFrom none rest := by
  induction h with
  | @last o b c step =>
    cases o with
    | none => simp only [List.cons_append, List.nil_append, lossyFrom, show lead b = _ from step]
    | some p =>
      simp only [List.cons_append, List.nil_append, lossyFrom, show p.step b = _ from step]
  | @more o b p bytes c step _ ih =>
    cases o with
    | none => simp only [List.cons_append, lossyFrom, show lead b = _ from step, ih]
    | some q => simp only [List.cons_append, lossyFrom, show q.step b = _ from step, ih]

theorem lossyFrom_encodeChars (text : List Char) : lossyFrom none (encodeChars text) = text := by
  induction text with
  | nil => rfl
  | cons c text ih =>
    rw [encodeChars, List.flatMap_cons, lossyFrom_of_completes (completes_encodeChar c)]
    exact congrArg (c :: ·) ih

theorem decodeLossy_encode (text : String) : decodeLossy (encode text) = text := by
  rw [decodeLossy, encode, lossyFrom_encodeChars, String.ofList_toList]

/-! ### Strict reading -/

theorem foldlM_of_completes {o : Option Pending} {bytes : Octets} {c : Char}
    (h : Completes o bytes c) (chars : List Char) (start : Nat) :
    ∃ next, bytes.foldlM Reading.step ⟨chars, start, o⟩ = .ok ⟨c :: chars, next, none⟩ := by
  induction h with
  | @last o b c step =>
    cases o with
    | none =>
      refine ⟨start + 1, ?_⟩
      simp only [List.foldlM_cons, Reading.step, show lead b = _ from step]
      rfl
    | some p =>
      refine ⟨start + p.taken + 1, ?_⟩
      simp only [List.foldlM_cons, Reading.step, show p.step b = _ from step]
      rfl
  | @more o b p bytes c step _ ih =>
    obtain ⟨next, rest⟩ := ih
    refine ⟨next, ?_⟩
    cases o with
    | none =>
      simp only [List.foldlM_cons, Reading.step, show lead b = _ from step]
      exact rest
    | some q =>
      simp only [List.foldlM_cons, Reading.step, show q.step b = _ from step]
      exact rest

theorem foldlM_encodeChars (text chars : List Char) (start : Nat) :
    ∃ next, (encodeChars text).foldlM Reading.step ⟨chars, start, none⟩ =
      .ok ⟨text.reverse ++ chars, next, none⟩ := by
  induction text generalizing chars start with
  | nil => exact ⟨start, rfl⟩
  | cons c text ih =>
    obtain ⟨middle, first⟩ := foldlM_of_completes (completes_encodeChar c) chars start
    obtain ⟨next, rest⟩ := ih (c :: chars) middle
    refine ⟨next, ?_⟩
    rw [encodeChars, List.flatMap_cons, List.foldlM_append, first]
    rw [List.reverse_cons, List.append_assoc]
    exact rest

theorem decode?_encodeChars (text : List Char) :
    decode? (.ofList (encodeChars text)) = .ok text := by
  obtain ⟨next, read⟩ := foldlM_encodeChars text [] 0
  rw [decode?_eq, Bytes.toList_ofList]
  rw [show ({} : Reading) = ⟨[], 0, none⟩ from rfl, read]
  simp [Except.bind, Reading.text]

/-! ### Zero bytes -/

/-- Only the zero character has a zero byte. -/
theorem zero_notMem_encodeChar {c : Char} (h : c ≠ '\x00') : 0 ∉ String.utf8EncodeChar c := by
  have nonzero : c.toNat ≠ 0 := fun zero => h (Char.toNat_inj.1 zero)
  have small := (scalar_toNat c).2
  have scalar : c.val.toNat = c.toNat := rfl
  unfold String.utf8EncodeChar
  simp only
  split
  · simp [← UInt8.toNat_inj]
    omega
  split
  · simp [← UInt8.toNat_inj]
    omega
  split
  · simp [← UInt8.toNat_inj]
    omega
  · simp [← UInt8.toNat_inj]
    omega

theorem zero_notMem_encodeChars {text : List Char} (noZero : '\x00' ∉ text) :
    0 ∉ encodeChars text := by
  rw [encodeChars, List.mem_flatMap]
  rintro ⟨c, mem, zero⟩
  exact zero_notMem_encodeChar (fun eq => noZero (eq ▸ mem)) zero

end FpgaHost.Utf8
