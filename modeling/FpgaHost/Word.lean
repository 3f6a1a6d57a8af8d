/-!
# Words

Bytes, times and indices are counted in words of 64 bits. They are natural numbers here. A sum of
byte counts is cut to a word, as it is when words are added. Times and indices are not cut: what is
said of how they are computed is said as long as they are words, and then adding words comes to the
same (`addWords_of_isWord`).
-/

namespace FpgaHost

/-- A number that is a word of 64 bits. -/
def IsWord (n : Nat) : Prop := n < UInt64.size

instance : DecidablePred IsWord := fun n => inferInstanceAs (Decidable (n < UInt64.size))

theorem IsWord.of_le {m n : Nat} (word : IsWord n) (le : m ≤ n) : IsWord m :=
  Nat.lt_of_le_of_lt le word

/-! ### Sums -/

/-- The sum of two words: that of their numbers, cut to a word. -/
def addWords (a b : Nat) : Nat := (a + b) % UInt64.size

theorem toNat_add (a b : UInt64) : (a + b).toNat = addWords a.toNat b.toNat :=
  UInt64.toNat_add a b

theorem isWord_addWords (a b : Nat) : IsWord (addWords a b) := Nat.mod_lt _ (by decide)

/-- Nothing is cut off a sum that is a word. -/
theorem addWords_of_isWord {a b : Nat} (word : IsWord (a + b)) : addWords a b = a + b :=
  Nat.mod_eq_of_lt word

theorem addWords_assoc (a b c : Nat) : addWords (addWords a b) c = addWords a (addWords b c) := by
  rw [addWords, addWords, addWords, addWords, Nat.mod_add_mod, Nat.add_mod_mod, Nat.add_assoc]

theorem addWords_zero {a : Nat} (word : IsWord a) : addWords a 0 = a := addWords_of_isWord word

theorem zero_addWords {a : Nat} (word : IsWord a) : addWords 0 a = a := by
  rw [addWords, Nat.zero_add]
  exact Nat.mod_eq_of_lt word

/-- The sum of a list of words. -/
def sumWords (words : List Nat) : Nat := words.foldl addWords 0

end FpgaHost
