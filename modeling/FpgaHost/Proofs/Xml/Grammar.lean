import FpgaHost.Proofs.Xml.Reading

/-!
# What a reader of documents must answer

A small part of XML is enough for all that is written here: tags with plain names and attributes in
double quotes, nested as they are, and white space around them (`Content`). A document
(`IsDocument`) is one element of this kind behind a declaration.

A reader is faithful (`Reader.Faithful`) if it answers every such document with its element, the
values as XML has them read: references resolved, white space as spaces. This is all that is asked
of a reader where what is written is to be read back, whichever reader it is; `faithful_parse?` says
that the one at hand is such a reader.
-/

namespace FpgaHost.Xml

/-! ### The grammar -/

/-- A tag that XML allows and that declares no scope. -/
structure PlainTag (name : String) (attributes : List (String × String)) : Prop where
  /-- The name has no scope. -/
  name : PlainName name
  /-- No attribute's name has one. -/
  names : PlainNames attributes
  /-- No attribute is a declaration, and no name stands twice. -/
  proper : Proper attributes

instance (name : String) (attributes : List (String × String)) :
    Decidable (PlainTag name attributes) :=
  decidable_of_iff (PlainName name ∧ PlainNames attributes ∧ Proper attributes)
    ⟨fun h => ⟨h.1, h.2.1, h.2.2⟩, fun h => ⟨h.name, h.names, h.proper⟩⟩

/-- `Content text es`: the text consists of the elements, with white space around them. -/
inductive Content : List Char → List Element → Prop where
  /-- No text has no elements. -/
  | nil : Content [] []
  /-- White space adds none. -/
  | space {c : Char} {text : List Char} {es : List Element} :
      isSpace c = true → Content text es → Content (c :: text) es
  /-- An element with nothing in it. -/
  | empty {name : String} {attributes : List (String × String)} {text : List Char}
      {es : List Element} :
      PlainTag name attributes → Content text es →
        Content (emptyText name attributes ++ text)
          (.mk ⟨none, name⟩ (attributesOf (normalizedAttributes attributes)) [] :: es)
  /-- An element around others. -/
  | nested {name : String} {attributes : List (String × String)} {inner text : List Char}
      {children es : List Element} :
      PlainTag name attributes → Content inner children → Content text es →
        Content (elementText name attributes inner ++ text)
          (.mk ⟨none, name⟩ (attributesOf (normalizedAttributes attributes)) children :: es)

/-- The declaration in front of a document. -/
def declarationText : List Char := "<?xml version=\"1.0\" encoding=\"UTF-8\"?>".toList

/-- A document of characters that XML has: a declaration and one element. -/
structure IsDocument (text : List Char) (e : Element) : Prop where
  /-- One element stands behind the declaration. -/
  content : ∃ content, text = declarationText ++ content ∧ Content content [e]
  /-- All characters may stand in a document. -/
  chars : ∀ c ∈ text, isChar c = true

/-- A reader answers every document with the element that it is written as. -/
def Reader.Faithful (reader : Reader) : Prop :=
  ∀ text e, IsDocument text e → reader text = some e

/-! ### Composing texts -/

namespace Content

variable {name : String} {attributes : List (String × String)} {a b text : List Char}
  {es fs : List Element}

theorem append (first : Content a es) (later : Content b fs) : Content (a ++ b) (es ++ fs) := by
  induction first with
  | nil => exact later
  | space space _ ih => exact .space space ih
  | empty tag _ ih =>
    rw [List.append_assoc]
    exact .empty tag ih
  | nested tag inner _ _ ih =>
    rw [List.append_assoc]
    exact .nested tag inner ih

theorem gap {gap : List Char} (spaces : ∀ c ∈ gap, isSpace c = true) : Content gap [] := by
  induction gap with
  | nil => exact .nil
  | cons c gap ih =>
    obtain ⟨space, spaces⟩ := List.forall_mem_cons.1 spaces
    exact .space space (ih spaces)

/-- White space around elements adds none. -/
theorem between {before behind : List Char} (content : Content text es)
    (before_spaces : ∀ c ∈ before, isSpace c = true)
    (behind_spaces : ∀ c ∈ behind, isSpace c = true) :
    Content (before ++ (text ++ behind)) es := by
  have all := (gap before_spaces).append (content.append (gap behind_spaces))
  rwa [List.nil_append, List.append_nil] at all

theorem single_empty (tag : PlainTag name attributes) :
    Content (emptyText name attributes)
      [.mk ⟨none, name⟩ (attributesOf (normalizedAttributes attributes)) []] := by
  simpa using Content.empty tag .nil

theorem single_nested (tag : PlainTag name attributes) (inner : Content text es) :
    Content (elementText name attributes text)
      [.mk ⟨none, name⟩ (attributesOf (normalizedAttributes attributes)) es] := by
  simpa using Content.nested tag inner .nil

/-! ### What the reader at hand makes of them -/

theorem spellsAll (content : Content text es) : SpellsAll text es := by
  induction content with
  | nil => exact spellsAll_gap fun c mem => absurd mem List.not_mem_nil
  | space space _ ih =>
    exact (spellsAll_gap fun d mem => List.mem_singleton.1 mem ▸ space).append ih
  | empty tag _ ih => exact (spells_empty tag.name tag.names tag.proper).spellsAll.append ih
  | nested tag _ _ inner ih =>
    exact (spells_nested tag.name tag.names tag.proper inner).spellsAll.append ih

theorem isSpace_of_no_element (content : Content text []) : ∀ c ∈ text, isSpace c = true := by
  generalize none : ([] : List Element) = es at content
  induction content with
  | nil => exact fun c mem => absurd mem List.not_mem_nil
  | space space _ ih => exact List.forall_mem_cons.2 ⟨space, ih none⟩
  | empty => contradiction
  | nested => contradiction

/-- One element has white space before it and behind it. -/
theorem spells_of_single {e : Element} (content : Content text [e]) :
    ∃ before middle behind, text = before ++ (middle ++ behind) ∧ Spells middle e ∧
      (∀ c ∈ before, isSpace c = true) ∧ ∀ c ∈ behind, isSpace c = true := by
  generalize one : [e] = es at content
  induction content with
  | nil => contradiction
  | @space c text es space _ ih =>
    obtain ⟨before, middle, behind, rfl, spells, front, back⟩ := ih one
    exact ⟨c :: before, middle, behind, rfl, spells, List.forall_mem_cons.2 ⟨space, front⟩, back⟩
  | @empty name attributes text es tag rest =>
    obtain ⟨rfl, rfl⟩ := List.cons.inj one
    exact ⟨[], _, text, rfl, spells_empty tag.name tag.names tag.proper,
      fun c mem => absurd mem List.not_mem_nil, rest.isSpace_of_no_element⟩
  | @nested name attributes inner text children es tag content rest =>
    obtain ⟨rfl, rfl⟩ := List.cons.inj one
    exact ⟨[], _, text, rfl, spells_nested tag.name tag.names tag.proper content.spellsAll,
      fun c mem => absurd mem List.not_mem_nil, rest.isSpace_of_no_element⟩

end Content

theorem afterDeclaration?_declarationText (rest : List Char) :
    afterDeclaration? (declarationText ++ rest) = some rest := by
  rfl

/-- The reader at hand is faithful. -/
theorem faithful_parse? : Reader.Faithful parse? := by
  intro text e document
  obtain ⟨content, rfl, one⟩ := document.content
  obtain ⟨before, middle, behind, rfl, spells, front, back⟩ := one.spells_of_single
  have mark : afterMark (declarationText ++ (before ++ (middle ++ behind))) =
      declarationText ++ (before ++ (middle ++ behind)) := rfl
  simp only [parse?, mark]
  rw [if_pos (List.all_eq_true.2 document.chars), afterDeclaration?_declarationText,
    Option.bind_some]
  exact ofTokens?_spells front spells back

end FpgaHost.Xml
