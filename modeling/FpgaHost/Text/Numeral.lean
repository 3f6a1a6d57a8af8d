import FpgaHost.Text.Blank

/-!
# Decimal numerals

Numerals as configuration texts write them: digits, with an optional sign, within the range of a
word. No digit separator, no fraction and no white space is part of a numeral; callers trim.
-/

namespace FpgaHost.Text

/-- The value of one decimal digit. -/
def digitValue? (c : Char) : Option Nat :=
  if '0' ≤ c && c ≤ '9' then some (c.toNat - '0'.toNat) else none

/-- The value of digits that follow a number already read. -/
def digitsFrom? (value : Nat) : List Char → Option Nat
  | [] => some value
  | c :: rest => (digitValue? c).bind fun d => digitsFrom? (value * 10 + d) rest

/-- The value of a sequence of at least one digit. -/
def digits? : List Char → Option Nat
  | [] => none
  | c :: rest => digitsFrom? 0 (c :: rest)

/-- A natural number below `bound`, with an optional plus sign. -/
def natural? (bound : Nat) (s : String) : Option Nat :=
  let unsigned := match s.toList with
    | '+' :: rest => rest
    | cs => cs
  (digits? unsigned).filter (· < bound)

/-- An integer in two's complement range, at least `-bound` and below `bound`. -/
def integer? (bound : Nat) (s : String) : Option Int :=
  match s.toList with
  | '-' :: rest => ((digits? rest).filter (· ≤ bound)).map fun n => -(n : Int)
  | '+' :: rest => ((digits? rest).filter (· < bound)).map fun n => (n : Int)
  | cs => ((digits? cs).filter (· < bound)).map fun n => (n : Int)

/-- A numeral for an unsigned word of 64 bits. -/
def word64? (s : String) : Option Nat := natural? UInt64.size s

/-- A numeral for a signed word of 64 bits. -/
def signed64? (s : String) : Option Int := integer? (UInt64.size / 2) s

end FpgaHost.Text
