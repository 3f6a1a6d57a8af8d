import FpgaHost.Xml.Character

/-!
# Qualified names

The name of an element or attribute, split at its colon into the name of a scope and a base. An
empty scope counts as none, a second colon makes the name void.
-/

namespace FpgaHost.Xml

/-- A name and the scope it is taken from. -/
structure QName where
  /-- What stands before the colon, if there is one. -/
  scope : Option String
  /-- What stands after the colon, or the whole name. -/
  base : String
  deriving DecidableEq, Repr

/-- Whether a sequence of name characters begins as a name must. -/
def beginsName : List Char → Bool
  | [] => false
  | c :: _ => isNameStart c

/-- The qualified name that a sequence of name characters spells. -/
def QName.ofChars? (cs : List Char) : Option QName :=
  let first := cs.takeWhile (· != ':')
  match cs.dropWhile (· != ':') with
  | [] => if beginsName first then some ⟨none, String.ofList first⟩ else none
  | _ :: base =>
    if base.contains ':' || !beginsName base then none
    else if first.isEmpty then some ⟨none, String.ofList base⟩
    else if beginsName first then some ⟨some (String.ofList first), String.ofList base⟩
    else none

end FpgaHost.Xml
