import FpgaHost.Proofs.Xml.Value
import FpgaHost.Xml.Token
import Mathlib.Data.List.TakeWhile

/-!
# Tags that are written are read back

A start tag is written as its name and its attributes, each after one space and in double quotes.
The readers of markup find the tag, whatever stands behind it: `token?_opening` and `token?_closed`
for start tags, `token?_closing` for end tags. Names are plain (`PlainName`): they are names of XML
without a scope. Values are any texts, and are read with their white space as spaces
(`normalizedAttributes`).
-/

namespace FpgaHost.Xml

/-! ### Names -/

/-- A name without a scope. -/
structure PlainName (name : String) : Prop where
  /-- It begins as a name must. -/
  begins : beginsName name.toList = true
  /-- It goes on as a name may, and has no colon. -/
  goesOn : ∀ c ∈ name.toList, isNameChar c = true ∧ c ≠ ':'

instance (name : String) : Decidable (PlainName name) :=
  decidable_of_iff (beginsName name.toList = true ∧
      ∀ c ∈ name.toList, isNameChar c = true ∧ c ≠ ':')
    ⟨fun h => ⟨h.1, h.2⟩, fun h => ⟨h.begins, h.goesOn⟩⟩

/-- The character after which a name is over. -/
def Stops (s : List Char) : Prop := ∀ c ∈ s.head?, isNameChar c = false

theorem ne_of_isNameStart {c d : Char} (start : isNameStart c = true)
    (other : isNameStart d = false) : c ≠ d := by
  rintro rfl
  rw [start] at other
  contradiction

theorem isSpace_of_isNameStart {c : Char} (start : isNameStart c = true) : isSpace c = false := by
  have space : c ≠ ' ' := ne_of_isNameStart start (by decide)
  have tab : c ≠ '\t' := ne_of_isNameStart start (by decide)
  have feed : c ≠ '\n' := ne_of_isNameStart start (by decide)
  have carriage : c ≠ '\r' := ne_of_isNameStart start (by decide)
  simp [isSpace, space, tab, feed, carriage]

namespace PlainName

variable {name : String}

theorem cons (plain : PlainName name) :
    ∃ c rest, name.toList = c :: rest ∧ isNameStart c = true := by
  have begins := plain.begins
  cases chars : name.toList with
  | nil =>
    rw [chars] at begins
    contradiction
  | cons c rest =>
    rw [chars] at begins
    exact ⟨c, rest, rfl, begins⟩

theorem ofChars? (plain : PlainName name) : QName.ofChars? name.toList = some ⟨none, name⟩ := by
  have colon : ∀ c ∈ name.toList, (c != ':') = true := fun c mem => by
    simpa using (plain.goesOn c mem).2
  have taken : name.toList.takeWhile (· != ':') = name.toList := List.takeWhile_eq_self_iff.2 colon
  have dropped : name.toList.dropWhile (· != ':') = [] := List.dropWhile_eq_nil_iff.2 colon
  simp only [QName.ofChars?, taken, dropped, plain.begins, if_true, String.ofList_toList]

theorem takeWhile_append (plain : PlainName name) {s : List Char} (stops : Stops s) :
    (name.toList ++ s).takeWhile isNameChar = name.toList := by
  rw [List.takeWhile_append_of_pos fun c mem => (plain.goesOn c mem).1]
  cases s with
  | nil => rw [List.takeWhile_nil, List.append_nil]
  | cons c rest => rw [List.takeWhile_cons_of_neg (by simp [stops c rfl]), List.append_nil]

theorem dropWhile_append (plain : PlainName name) {s : List Char} (stops : Stops s) :
    (name.toList ++ s).dropWhile isNameChar = s := by
  rw [List.dropWhile_append_of_pos fun c mem => (plain.goesOn c mem).1]
  cases s with
  | nil => rfl
  | cons c rest => rw [List.dropWhile_cons_of_neg (by simp [stops c rfl])]

end PlainName

/-! ### Attributes -/

/-- Attributes with plain names as they are written. -/
def attributesText (attributes : List (String × String)) : List Char :=
  attributes.flatMap fun a => ' ' :: a.1.toList ++ ['=', '"'] ++ escape a.2.toList ++ ['"']

/-- The attributes that are read. -/
def attributesOf (attributes : List (String × String)) : List Attribute :=
  attributes.map fun a => ⟨⟨none, a.1⟩, a.2⟩

/-- Attributes with the values that are read of them. -/
def normalizedAttributes (attributes : List (String × String)) : List (String × String) :=
  attributes.map fun a => (a.1, normalize a.2)

theorem names_normalizedAttributes (attributes : List (String × String)) :
    (normalizedAttributes attributes).map (·.1) = attributes.map (·.1) := by
  rw [normalizedAttributes, List.map_map]
  rfl

/-- Attributes with plain names. -/
def PlainNames (attributes : List (String × String)) : Prop :=
  ∀ name ∈ attributes.map (·.1), PlainName name

instance (attributes : List (String × String)) : Decidable (PlainNames attributes) :=
  inferInstanceAs (Decidable (∀ name ∈ attributes.map Prod.fst, PlainName name))

theorem quotedBy_append {q : Char} {raw : List Char} (quote : q ∉ raw) (tag : '<' ∉ raw)
    (rest : List Char) : quotedBy q (raw ++ q :: rest) = some (raw, rest) := by
  have inside : ∀ c ∈ raw, (c != q) = true := fun c mem => by
    simpa using fun same : c = q => quote (same ▸ mem)
  have taken : (raw ++ q :: rest).takeWhile (· != q) = raw := by
    rw [List.takeWhile_append_of_pos inside]
    simp
  have dropped : (raw ++ q :: rest).dropWhile (· != q) = q :: rest := by
    rw [List.dropWhile_append_of_pos inside]
    simp
  simp only [quotedBy, taken, dropped]
  rw [if_neg (by simpa using tag)]

/-- An attribute is read up to its closing quote, whatever its value is. -/
theorem attribute?_append {name : String} (plain : PlainName name) (value : String)
    (rest : List Char) :
    attribute? (name.toList ++ '=' :: '"' :: (escape value.toList ++ '"' :: rest)) =
      some (⟨⟨none, name⟩, normalize value⟩, rest) := by
  have stops : Stops ('=' :: '"' :: (escape value.toList ++ '"' :: rest)) := by
    rintro c ⟨⟩
    decide
  have value_at := quotedBy_append (notMem_escape (.inl rfl) value.toList)
    (notMem_escape (.inr rfl) value.toList) rest
  have equals : ¬isSpace '=' = true := by decide
  have quote : ¬isSpace '"' = true := by decide
  simp only [attribute?, rawAttribute?, plain.takeWhile_append stops, plain.dropWhile_append stops,
    plain.ofChars?, List.dropWhile_cons_of_neg equals, List.dropWhile_cons_of_neg quote,
    decide_true, Bool.true_or, if_true, value_at, Option.map_some, Option.bind_some,
    decode_escape, normalize]

/-- An attribute in front of the end of a tag is the first attribute of the tag. -/
theorem tagEnd?_cons {s rest : List Char} {a : Attribute} (begins : beginsName s = true)
    (read : attribute? s = some (a, rest)) :
    tagEnd? (' ' :: s) = (tagEnd? rest).map fun r => (a :: r.1, r.2.1, r.2.2) := by
  cases s with
  | nil => contradiction
  | cons c s =>
    have start : isNameStart c = true := begins
    have trimmed : (' ' :: c :: s).dropWhile isSpace = c :: s := by
      rw [List.dropWhile_cons_of_pos (by decide),
        List.dropWhile_cons_of_neg (by simp [isSpace_of_isNameStart start])]
    rw [tagEnd?, trimmed]
    split
    · rename_i ends
      exact absurd (List.cons.inj ends).1 (ne_of_isNameStart start (by decide))
    · rename_i ends
      exact absurd (List.cons.inj ends).1 (ne_of_isNameStart start (by decide))
    · rw [List.head?_cons, Option.any_some, if_pos (by decide)]
      split
      · rename_i b after found
        rw [read] at found
        obtain ⟨rfl, rfl⟩ := Prod.mk.inj (Option.some.inj found)
        rfl
      · rename_i failed
        rw [read] at failed
        contradiction

theorem tagEnd?_attributesText {attributes : List (String × String)}
    (plain : PlainNames attributes) (s : List Char) :
    tagEnd? (attributesText attributes ++ s) = (tagEnd? s).map fun r =>
      (attributesOf (normalizedAttributes attributes) ++ r.1, r.2.1, r.2.2) := by
  induction attributes with
  | nil =>
    cases ends : tagEnd? s with
    | none => exact ends
    | some r => exact ends
  | cons a rest ih =>
    obtain ⟨first, later⟩ := List.forall_mem_cons.1 plain
    have read := attribute?_append first a.2 (attributesText rest ++ s)
    have begins : beginsName (a.1.toList ++ '=' :: '"' ::
        (escape a.2.toList ++ '"' :: (attributesText rest ++ s))) = true := by
      obtain ⟨c, cs, chars, start⟩ := first.cons
      rw [chars]
      exact start
    have text : attributesText (a :: rest) ++ s =
        ' ' :: (a.1.toList ++ '=' :: '"' ::
          (escape a.2.toList ++ '"' :: (attributesText rest ++ s))) := by
      simp [attributesText]
    rw [text, tagEnd?_cons begins read, ih later, Option.map_map]
    rfl

/-! ### Tags -/

theorem tagEnd?_open (rest : List Char) : tagEnd? ('>' :: rest) = some ([], false, rest) := by
  rw [tagEnd?]
  rfl

theorem tagEnd?_closed (rest : List Char) :
    tagEnd? ('/' :: '>' :: rest) = some ([], true, rest) := by
  rw [tagEnd?]
  rfl

theorem stops_attributesText {attributes : List (String × String)} {s : List Char}
    (stops : Stops s) : Stops (attributesText attributes ++ s) := by
  cases attributes with
  | nil => exact stops
  | cons a rest =>
    rintro c ⟨⟩
    decide

/-- What follows `<` is a start tag if it begins with a name. -/
theorem token?_of_beginsName {s : List Char} (begins : beginsName s = true) :
    token? ('<' :: s) = opening? s := by
  cases s with
  | nil => contradiction
  | cons c s =>
    have start : isNameStart c = true := begins
    have slash : c ≠ '/' := ne_of_isNameStart start (by decide)
    have question : c ≠ '?' := ne_of_isNameStart start (by decide)
    have bang : c ≠ '!' := ne_of_isNameStart start (by decide)
    simp [token?, slash, question, bang]

section Tags

variable {name : String} {attributes : List (String × String)}

theorem opening?_append (plain : PlainName name) (names : PlainNames attributes)
    {s rest : List Char} {closed : Bool} (stops : Stops s)
    (ends : tagEnd? s = some ([], closed, rest)) :
    token? ('<' :: (name.toList ++ (attributesText attributes ++ s))) =
      some (.opening ⟨none, name⟩ (attributesOf (normalizedAttributes attributes)) closed, rest) := by
  have begins : beginsName (name.toList ++ (attributesText attributes ++ s)) = true := by
    obtain ⟨c, cs, chars, start⟩ := plain.cons
    rw [chars]
    exact start
  have after : Stops (attributesText attributes ++ s) := stops_attributesText stops
  rw [token?_of_beginsName begins, opening?, plain.takeWhile_append after,
    plain.dropWhile_append after, plain.ofChars?, Option.bind_some,
    tagEnd?_attributesText names, ends, Option.map_some, Option.map_some, List.append_nil]

/-- A start tag. -/
theorem token?_opening (plain : PlainName name) (names : PlainNames attributes)
    (rest : List Char) :
    token? ('<' :: (name.toList ++ (attributesText attributes ++ '>' :: rest))) =
      some (.opening ⟨none, name⟩ (attributesOf (normalizedAttributes attributes)) false, rest) :=
  opening?_append plain names (by rintro c ⟨⟩; decide) (tagEnd?_open rest)

/-- A start tag that is an end tag too. -/
theorem token?_closed (plain : PlainName name) (names : PlainNames attributes)
    (rest : List Char) :
    token? ('<' :: (name.toList ++ (attributesText attributes ++ '/' :: '>' :: rest))) =
      some (.opening ⟨none, name⟩ (attributesOf (normalizedAttributes attributes)) true, rest) :=
  opening?_append plain names (by rintro c ⟨⟩; decide) (tagEnd?_closed rest)

/-- An end tag. -/
theorem token?_closing (plain : PlainName name) (rest : List Char) :
    token? ('<' :: '/' :: (name.toList ++ '>' :: rest)) = some (.closing ⟨none, name⟩, rest) := by
  have stops : Stops ('>' :: rest) := by
    rintro c ⟨⟩
    decide
  have ends : ¬isSpace '>' = true := by decide
  simp only [token?, closing?, plain.takeWhile_append stops, plain.dropWhile_append stops,
    plain.ofChars?, Option.bind_some, List.dropWhile_cons_of_neg ends]

end Tags

end FpgaHost.Xml
