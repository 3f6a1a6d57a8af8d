/-!
# Columns

Reports line texts up in columns. Widths count characters, and a text wider than its column is
written in full. Hexadecimal numbers are lower case.
-/

namespace FpgaHost.Text

/-- The text at the left of a column. -/
def padRight (width : Nat) (s : String) : String :=
  s ++ String.ofList (List.replicate (width - s.length) ' ')

/-- The text at the right of a column. -/
def padLeft (width : Nat) (s : String) : String :=
  String.ofList (List.replicate (width - s.length) ' ') ++ s

/-- A number at the right of a column. -/
def padNumber (width n : Nat) : String := padLeft width (toString n)

/-- A number in hexadecimal, with zeros in front up to a width. -/
def hex (width n : Nat) : String :=
  let digits := Nat.toDigits 16 n
  String.ofList (List.replicate (width - digits.length) '0' ++ digits)

end FpgaHost.Text
