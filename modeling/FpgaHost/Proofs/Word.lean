import FpgaHost.Word
import Mathlib.Algebra.GroupWithZero.Nat

/-!
# Sums of words

Adding words one after the other comes to the same as adding their numbers and cutting the sum once
(`sumWords_eq`). So nothing is cut off a sum that is a word (`sumWords_of_isWord`).
-/

namespace FpgaHost

theorem foldl_addWords {a : Nat} (word : IsWord a) (words : List Nat) :
    words.foldl addWords a = addWords a words.sum := by
  induction words generalizing a with
  | nil => exact (addWords_zero word).symm
  | cons b rest ih =>
    rw [List.foldl_cons, ih (isWord_addWords a b), List.sum_cons, addWords, addWords, addWords,
      Nat.mod_add_mod, Nat.add_assoc]

theorem sumWords_eq (words : List Nat) : sumWords words = words.sum % UInt64.size := by
  rw [sumWords, foldl_addWords (by decide), addWords, Nat.zero_add]

theorem sumWords_cons (a : Nat) (rest : List Nat) :
    sumWords (a :: rest) = addWords a (sumWords rest) := by
  rw [sumWords_eq, sumWords_eq, List.sum_cons, addWords, Nat.add_mod_mod]

theorem isWord_sumWords (words : List Nat) : IsWord (sumWords words) := by
  rw [sumWords_eq]
  exact Nat.mod_lt _ (by decide)

theorem sumWords_of_isWord {words : List Nat} (word : IsWord words.sum) :
    sumWords words = words.sum := by
  rw [sumWords_eq]
  exact Nat.mod_eq_of_lt word

theorem sumWords_eq_of_sum_eq {words : List Nat} {n : Nat} (sum : words.sum = n)
    (word : IsWord n) : sumWords words = n := by
  rw [sumWords_of_isWord (sum ▸ word), sum]

end FpgaHost
