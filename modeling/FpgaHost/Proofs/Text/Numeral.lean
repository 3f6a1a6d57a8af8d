import FpgaHost.Text.Numeral

/-!
# Numerals that are written are read back

A number in decimal digits is read back by any reader of natural numbers whose bound it keeps
(`natural?_toString`); there is nothing to trim around it (`trim_toString`). Digits without a zero
in front are the numeral of the number they are read as (`toList_toString_of_digits?`).
-/

namespace FpgaHost.Text

theorem digitValue?_of_isDigit {c : Char} (h : c.isDigit = true) :
    digitValue? c = some (c.toNat - '0'.toNat) := by
  have inside : '0' ≤ c ∧ c ≤ '9' := by
    rw [Char.isDigit, Bool.and_eq_true, decide_eq_true_eq, decide_eq_true_eq] at h
    exact h
  rw [digitValue?, if_pos]
  rw [decide_eq_true inside.1, decide_eq_true inside.2]
  rfl

theorem digitsFrom?_of_isDigit {cs : List Char} (digits : ∀ c ∈ cs, c.isDigit = true)
    (value : Nat) : digitsFrom? value cs = some (Nat.ofDigitChars 10 cs value) := by
  induction cs generalizing value with
  | nil => rfl
  | cons c rest ih =>
    rw [digitsFrom?, digitValue?_of_isDigit (digits c List.mem_cons_self), Option.bind_some,
      ih fun d mem => digits d (List.mem_cons_of_mem c mem), Nat.ofDigitChars_cons, Nat.mul_comm]

theorem isDigit_of_mem_toString {n : Nat} {c : Char} (mem : c ∈ (toString n).toList) :
    c.isDigit = true := by
  rw [Nat.toString_eq_repr, Nat.toList_repr] at mem
  exact Nat.isDigit_of_mem_toDigits (by decide) (by decide) mem

theorem digits?_toString (n : Nat) : digits? (toString n).toList = some n := by
  have digits := fun c (mem : c ∈ (toString n).toList) => isDigit_of_mem_toString mem
  have value : Nat.ofDigitChars 10 (toString n).toList 0 = n := by
    rw [Nat.toString_eq_repr, Nat.toList_repr, Nat.ofDigitChars_ten_toDigits]
  have nonempty : (toString n).toList ≠ [] := by
    rw [Nat.toString_eq_repr, Nat.toList_repr]
    exact Nat.toDigits_ne_nil
  cases chars : (toString n).toList with
  | nil => exact absurd chars nonempty
  | cons c rest =>
    rw [chars] at digits value
    rw [digits?, digitsFrom?_of_isDigit digits, value]

theorem natural?_toString {bound n : Nat} (below : n < bound) :
    natural? bound (toString n) = some n := by
  simp only [natural?]
  split
  · rename_i rest chars
    have plus : ('+' : Char).isDigit = true :=
      isDigit_of_mem_toString (by rw [chars]; exact List.mem_cons_self)
    contradiction
  · rw [digits?_toString, Option.filter_some, decide_eq_true below]
    rfl

/-- Digits are no white space. -/
theorem isBlank_of_isDigit {c : Char} (h : c.isDigit = true) : isBlank c = false := by
  rw [Char.isDigit, Bool.and_eq_true, decide_eq_true_eq, decide_eq_true_eq] at h
  have low : 48 ≤ c.toNat := h.1
  have high : c.toNat ≤ 57 := h.2
  simp only [isBlank, blankRanges, List.any_cons, List.any_nil, Bool.or_eq_false_iff,
    Bool.and_eq_false_iff, decide_eq_false_iff_not, and_true]
  omega

theorem dropWhile_of_none {p : Char → Bool} {cs : List Char} (none : ∀ c ∈ cs, p c = false) :
    cs.dropWhile p = cs := by
  cases cs with
  | nil => rfl
  | cons c rest => rw [List.dropWhile_cons_of_neg (by simp [none c List.mem_cons_self])]

theorem trim_toString (n : Nat) : trim (toString n) = toString n := by
  have blank := fun c (mem : c ∈ (toString n).toList) =>
    isBlank_of_isDigit (isDigit_of_mem_toString mem)
  rw [trim, trimChars, dropWhile_of_none blank,
    dropWhile_of_none fun c mem => blank c (List.mem_reverse.1 mem), List.reverse_reverse,
    String.ofList_toList]

/-! ### Digits that are read are a numeral -/

theorem digitValue?_eq_some_iff {c : Char} {d : Nat} :
    digitValue? c = some d ↔ d < 10 ∧ c = d.digitChar := by
  constructor
  · intro read
    rw [digitValue?] at read
    split at read
    · rename_i inside
      rw [Bool.and_eq_true, decide_eq_true_eq, decide_eq_true_eq] at inside
      have low : '0'.toNat ≤ c.toNat := inside.1
      have high : c.toNat ≤ '9'.toNat := inside.2
      have value : c.toNat - '0'.toNat = d := Option.some.inj read
      have small : d < 10 := by
        have nine : '9'.toNat = 57 := rfl
        have zero : '0'.toNat = 48 := rfl
        omega
      refine ⟨small, Char.toNat_inj.1 ?_⟩
      rw [Nat.toNat_digitChar_of_lt_ten small]
      have zero : '0'.toNat = 48 := rfl
      omega
    · cases read
  · rintro ⟨small, rfl⟩
    have digit : d.digitChar.isDigit = true := by rw [Nat.isDigit_digitChar, decide_eq_true small]
    rw [digitValue?_of_isDigit digit, Nat.toNat_digitChar_of_lt_ten small]
    exact congrArg some (Nat.add_sub_cancel_left 48 d)

/-- Digits that are read after a positive number lengthen its numeral. -/
theorem toDigits_append_of_digitsFrom? {cs : List Char} {value n : Nat} (positive : 0 < value)
    (read : digitsFrom? value cs = some n) :
    Nat.toDigits 10 value ++ cs = Nat.toDigits 10 n := by
  induction cs generalizing value with
  | nil =>
    cases read
    exact List.append_nil _
  | cons c rest ih =>
    rw [digitsFrom?, Option.bind_eq_some_iff] at read
    obtain ⟨d, digit, read⟩ := read
    obtain ⟨small, rfl⟩ := digitValue?_eq_some_iff.1 digit
    calc Nat.toDigits 10 value ++ d.digitChar :: rest
        = (Nat.toDigits 10 value ++ Nat.toDigits 10 d) ++ rest := by
          rw [Nat.toDigits_of_lt_base small, List.append_assoc, List.singleton_append]
      _ = Nat.toDigits 10 (value * 10 + d) ++ rest := by
          rw [Nat.toDigits_append_toDigits (by decide) positive small, Nat.mul_comm]
      _ = Nat.toDigits 10 n := ih (by omega) read

theorem head?_toDigits_ne_zero {n : Nat} (positive : 0 < n) :
    (Nat.toDigits 10 n).head? ≠ some '0' := by
  induction n using Nat.strongRecOn with
  | _ n ih =>
    by_cases small : n < 10
    · rw [Nat.toDigits_of_lt_base small, List.head?_cons]
      intro zero
      have same := congrArg Char.toNat (Option.some.inj zero)
      rw [Nat.toNat_digitChar_of_lt_ten small] at same
      have code : '0'.toNat = 48 := rfl
      omega
    · have higher : (Nat.toDigits 10 (n / 10)).head? ≠ some '0' := ih (n / 10) (by omega) (by omega)
      rw [Nat.toDigits_of_base_le (by decide) (by omega), List.head?_append]
      cases leading : (Nat.toDigits 10 (n / 10)).head? with
      | none => exact absurd (List.head?_eq_none_iff.1 leading) Nat.toDigits_ne_nil
      | some c =>
        rw [leading] at higher
        exact higher

/-- Digits without a zero in front of them are the numeral of their value. -/
theorem toList_toString_of_digits? {cs : List Char} {n : Nat} (read : digits? cs = some n)
    (plain : cs.head? = some '0' → cs.length = 1) : cs = (toString n).toList := by
  rw [Nat.toString_eq_repr, Nat.toList_repr]
  cases cs with
  | nil => cases read
  | cons c rest =>
    rw [digits?, digitsFrom?, Option.bind_eq_some_iff] at read
    obtain ⟨d, digit, read⟩ := read
    obtain ⟨small, rfl⟩ := digitValue?_eq_some_iff.1 digit
    cases d with
    | zero =>
      obtain rfl : rest = [] := List.length_eq_zero_iff.1 (Nat.succ.inj (plain rfl))
      cases read
      rfl
    | succ d =>
      rw [Nat.zero_mul, Nat.zero_add] at read
      rw [← toDigits_append_of_digitsFrom? d.succ_pos read, Nat.toDigits_of_lt_base small]
      rfl

end FpgaHost.Text
