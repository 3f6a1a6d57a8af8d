import FpgaHost.Xml.Character
import FpgaHost.Text.Numeral

/-!
# Attribute values

What stands between the quotes of an attribute and what it means. Reading replaces references by
the characters they denote and literal white space by spaces (a carriage return before a line feed
is dropped); writing replaces the four characters that markup uses.

`decode` is one pass over the characters whose extra argument holds the reference under way, so it
needs no bound other than the text itself.
-/

namespace FpgaHost.Xml

/-- The value of a hexadecimal digit. -/
def hexDigit? (c : Char) : Option Nat :=
  if '0' ≤ c && c ≤ '9' then some (c.toNat - '0'.toNat)
  else if 'a' ≤ c && c ≤ 'f' then some (c.toNat - 'a'.toNat + 10)
  else if 'A' ≤ c && c ≤ 'F' then some (c.toNat - 'A'.toNat + 10)
  else none

/-- The value of hexadecimal digits that follow a number already read. -/
def hexFrom? (value : Nat) : List Char → Option Nat
  | [] => some value
  | c :: rest => (hexDigit? c).bind fun d => hexFrom? (value * 16 + d) rest

/-- The character of a number, U+FFFD if the number is no Unicode scalar value. Numbers of more
than 32 bits and characters that no document may hold have none. -/
def charOfNumber? (n : Nat) : Option Char :=
  let c := if n.isValidChar then Char.ofNat n else '\uFFFD'
  if n < UInt32.size && isChar c then some c else none

/-- The character that a reference denotes, given what stands between `&` and `;`. -/
def referenceChar? : List Char → Option Char
  | ['a', 'm', 'p'] => some '&'
  | ['l', 't'] => some '<'
  | ['g', 't'] => some '>'
  | ['q', 'u', 'o', 't'] => some '"'
  | ['a', 'p', 'o', 's'] => some '\x27'
  | '#' :: 'x' :: d :: digits => (hexFrom? 0 (d :: digits)).bind charOfNumber?
  | '#' :: digits => (Text.digits? digits).bind charOfNumber?
  | _ => none

/-- The meaning of the rest of a value. The first argument holds, last character first, what is
read of a reference under way. -/
def decodeFrom : Option (List Char) → List Char → Option (List Char)
  | none, [] => some []
  | some _, [] => none
  | some name, c :: rest =>
    if c = ';' then
      (referenceChar? name.reverse).bind fun d => (decodeFrom none rest).map (d :: ·)
    else decodeFrom (some (c :: name)) rest
  | none, c :: rest =>
    if c = '&' then decodeFrom (some []) rest
    else if c = '\r' && rest.head? = some '\n' then decodeFrom none rest
    else (decodeFrom none rest).map ((if isSpace c then ' ' else c) :: ·)

/-- The value that a text between quotes means; `none` if a reference in it is void. -/
def decode (raw : List Char) : Option (List Char) := decodeFrom none raw

/-- How one character is written in a value. -/
def escapeChar (c : Char) : List Char :=
  if c = '&' then ['&', 'a', 'm', 'p', ';']
  else if c = '<' then ['&', 'l', 't', ';']
  else if c = '>' then ['&', 'g', 't', ';']
  else if c = '"' then ['&', 'q', 'u', 'o', 't', ';']
  else [c]

/-- How a text is written between double quotes. -/
def escape (text : List Char) : List Char := text.flatMap escapeChar

end FpgaHost.Xml
