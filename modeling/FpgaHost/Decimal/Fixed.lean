/-!
# Decimals with a fixed number of places

A double-precision number is a mantissa times a power of two, so its decimal expansion is exact.
`fixed` rounds that exact value to a number of places, a tie going to the even neighbour.
-/

namespace FpgaHost.Decimal

/-- A finite number `(-1)^negative * mantissa * 2^exponent`. -/
structure Binary where
  /-- Whether the sign bit is set. -/
  negative : Bool
  /-- The integral mantissa. -/
  mantissa : Nat
  /-- The power of two. -/
  exponent : Int
  deriving DecidableEq, Repr

/-- The number that the bits of a double denote; `none` for an infinity or no number. -/
def Binary.ofBits (bits : UInt64) : Option Binary :=
  let n := bits.toNat
  let negative := Nat.pow 2 63 ≤ n
  let biased : Nat := n / Nat.pow 2 52 % Nat.pow 2 11
  let fraction : Nat := n % Nat.pow 2 52
  if biased = 2047 then none
  else if biased = 0 then some ⟨negative, fraction, -1074⟩
  else some ⟨negative, Nat.pow 2 52 + fraction, (biased : Int) - 1075⟩

/-- The integer nearest to a quotient, a tie going to the even one. -/
def roundDiv (num den : Nat) : Nat :=
  let q := num / den
  let twice := 2 * (num % den)
  if twice < den then q
  else if den < twice then q + 1
  else if q % 2 = 0 then q else q + 1

/-- The value times a power of ten, rounded to an integer. -/
def Binary.scaled (places : Nat) (x : Binary) : Nat :=
  let m := x.mantissa * Nat.pow 10 places
  match x.exponent with
  | .ofNat e => m * Nat.pow 2 e
  | .negSucc e => roundDiv m (Nat.pow 2 (e + 1))

/-- An integer read as that many units of the last place. -/
def withPoint (places n : Nat) : String :=
  let fraction := toString (n % Nat.pow 10 places)
  let zeros := String.ofList (List.replicate (places - fraction.length) '0')
  toString (n / Nat.pow 10 places) ++ "." ++ zeros ++ fraction

/-- The text of a double with a fixed number of places. -/
def fixed (places : Nat) (bits : UInt64) : String :=
  match Binary.ofBits bits with
  | some x => (if x.negative then "-" else "") ++ withPoint places (x.scaled places)
  | none =>
    if bits.toNat % Nat.pow 2 52 ≠ 0 then "NaN"
    else if Nat.pow 2 63 ≤ bits.toNat then "-inf" else "inf"

/-- The rounded quotient is within half a unit of the exact one. -/
theorem roundDiv_near (num den : Nat) (h : 0 < den) :
    2 * num ≤ (2 * roundDiv num den + 1) * den ∧ 2 * roundDiv num den * den ≤ 2 * num + den := by
  have div := Nat.div_add_mod num den
  have small := Nat.mod_lt num h
  unfold roundDiv
  generalize hq : num / den = q at *
  generalize hr : num % den = r at *
  subst div
  simp only
  have e : ∀ k, den * k = k * den := fun k => Nat.mul_comm den k
  split
  · simp only [e, Nat.add_mul, Nat.mul_add, Nat.mul_assoc]; omega
  · split
    · simp only [e, Nat.add_mul, Nat.mul_add, Nat.mul_assoc]; omega
    · split <;> (simp only [e, Nat.add_mul, Nat.mul_add, Nat.mul_assoc]; omega)

end FpgaHost.Decimal
