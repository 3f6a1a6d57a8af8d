import FpgaHost.Text.Column
import FpgaHost.Text.Hidden

/-!
# Quoted texts

A text between quotes, so that its ends are seen and every character in it can be told. Quotes and
backslashes get a backslash in front; hidden characters are written by name or number.
-/

namespace FpgaHost.Text

/-- How a character is written between quotes. -/
def quotedChar (c : Char) : String :=
  if c = '"' then "\\\""
  else if c = '\\' then "\\\\"
  else if c = '\n' then "\\n"
  else if c = '\r' then "\\r"
  else if c = '\t' then "\\t"
  else if c.toNat = 0 then "\\0"
  else if isHidden c then "\\u\x7b" ++ hex 1 c.toNat ++ "\x7d"
  else c.toString

/-- A text between quotes. -/
def quoted (s : String) : String := "\"" ++ String.join (s.toList.map quotedChar) ++ "\""

/-- A character that shows by itself and is no quote and no backslash stands for itself. -/
theorem quotedChar_of_shown {c : Char} (quote : c ≠ '"') (slash : c ≠ '\\')
    (shown : isHidden c = false) : quotedChar c = c.toString := by
  have hidden : ∀ d : Char, isHidden d = true → c ≠ d := fun d h e => by simp [e, h] at shown
  have nul : c.toNat ≠ 0 := fun h => by
    have : c = Char.ofNat 0 := by rw [← h, Char.ofNat_toNat]
    exact hidden _ (by decide) this
  unfold quotedChar
  rw [if_neg quote, if_neg slash, if_neg (hidden _ (by decide)), if_neg (hidden _ (by decide)),
    if_neg (hidden _ (by decide)), if_neg nul, if_neg (by simp [shown])]

end FpgaHost.Text
