import FpgaHost.Xml.Name
import FpgaHost.Xml.Value

/-!
# Markup

A document is a sequence of tags, character data, comments and processing instructions. `tokens`
cuts a text into them. Each reader takes what begins at the front of the text and hands over what
is left, which is shorter; the cut ends by that.

Character data, comments and instructions are checked and not kept: documents are read here for
their elements and attributes only.
-/

namespace FpgaHost.Xml

/-- An attribute of a tag. -/
structure Attribute where
  /-- The name. -/
  name : QName
  /-- The value, references resolved and white space normalised. -/
  value : String
  deriving DecidableEq, Repr

/-- One piece of markup. -/
inductive Token where
  /-- A start tag; `closed` if it ends the element at once. -/
  | opening (name : QName) (attributes : List Attribute) (closed : Bool)
  /-- An end tag. -/
  | closing (name : QName)
  /-- White space between other pieces. -/
  | blank
  /-- Character data that is not white space alone. -/
  | data
  /-- A comment or a processing instruction. -/
  | aside
  deriving DecidableEq, Repr

/-! ### Readers -/

/-- What stands before and after the first occurrence of a mark. -/
def upTo (mark : List Char) : List Char → Option (List Char × List Char)
  | [] => if mark.isEmpty then some ([], []) else none
  | c :: rest =>
    if mark.isPrefixOf (c :: rest) then some ([], (c :: rest).drop mark.length)
    else (upTo mark rest).map fun r => (c :: r.1, r.2)

/-- What stands between quotes, as it is written, when the opening quote `q` is read already. -/
def quotedBy (q : Char) (s : List Char) : Option (List Char × List Char) :=
  let raw := s.takeWhile (· != q)
  match s.dropWhile (· != q) with
  | [] => none
  | _ :: rest => if raw.contains '<' then none else some (raw, rest)

/-- An attribute as it is written: name, equals sign, value in quotes of either kind. -/
def rawAttribute? (s : List Char) : Option ((QName × List Char) × List Char) :=
  match QName.ofChars? (s.takeWhile isNameChar) with
  | none => none
  | some name =>
    match (s.dropWhile isNameChar).dropWhile isSpace with
    | '=' :: rest =>
      match rest.dropWhile isSpace with
      | q :: rest =>
        if q = '"' || q = '\x27' then (quotedBy q rest).map fun r => ((name, r.1), r.2)
        else none
      | [] => none
    | _ => none

/-- An attribute and what its value means. -/
def attribute? (s : List Char) : Option (Attribute × List Char) :=
  (rawAttribute? s).bind fun r =>
    (decode r.1.2).map fun value => (⟨r.1.1, String.ofList value⟩, r.2)

theorem length_dropWhile_le (p : Char → Bool) (s : List Char) :
    (s.dropWhile p).length ≤ s.length :=
  (List.dropWhile_sublist p).length_le

theorem length_quotedBy {q : Char} {s : List Char} {r : List Char × List Char}
    (h : quotedBy q s = some r) : r.2.length < s.length := by
  have le := length_dropWhile_le (· != q) s
  unfold quotedBy at h
  split at h
  · cases h
  · rename_i heq
    rw [heq] at le
    simp only at h
    split at h
    · cases h
    · cases h
      exact le

theorem length_rawAttribute? {s : List Char} {r : (QName × List Char) × List Char}
    (h : rawAttribute? s = some r) : r.2.length < s.length := by
  unfold rawAttribute? at h
  split at h
  · cases h
  · split at h
    · rename_i rest heq
      have le := length_dropWhile_le isSpace (s.dropWhile isNameChar)
      have le' := length_dropWhile_le isNameChar s
      have le'' := length_dropWhile_le isSpace rest
      rw [heq] at le
      split at h
      · rename_i q rest' heq'
        rw [heq'] at le''
        split at h
        · obtain ⟨v, hv, rfl⟩ := Option.map_eq_some_iff.1 h
          have := length_quotedBy hv
          simp only [List.length_cons] at *
          omega
        · cases h
      · cases h
    · cases h

theorem length_attribute? {s : List Char} {r : Attribute × List Char}
    (h : attribute? s = some r) : r.2.length < s.length := by
  obtain ⟨v, hv, h⟩ := Option.bind_eq_some_iff.1 h
  obtain ⟨value, -, rfl⟩ := Option.map_eq_some_iff.1 h
  exact length_rawAttribute? hv

/-- The attributes of a start tag, whether it closes the element, and what follows the tag. White
space stands before each attribute. -/
def tagEnd? (s : List Char) : Option (List Attribute × Bool × List Char) :=
  match s.dropWhile isSpace with
  | '>' :: rest => some ([], false, rest)
  | '/' :: rest => if rest.head? = some '>' then some ([], true, rest.tail) else none
  | _ =>
    if s.head?.any isSpace then
      match _h : attribute? (s.dropWhile isSpace) with
      | some (a, rest) => (tagEnd? rest).map fun r => (a :: r.1, r.2.1, r.2.2)
      | none => none
    else none
termination_by s.length
decreasing_by
  have := length_attribute? _h
  have := length_dropWhile_le isSpace s
  simp only at *
  omega

theorem length_tagEnd? {s : List Char} {r : List Attribute × Bool × List Char}
    (h : tagEnd? s = some r) : r.2.2.length < s.length := by
  have le := length_dropWhile_le isSpace s
  rw [tagEnd?] at h
  split at h
  · rename_i heq
    rw [heq] at le
    cases h
    exact le
  · rename_i heq
    rw [heq] at le
    split at h
    · cases h
      simp only [List.length_cons, List.length_tail] at *
      omega
    · cases h
  · split at h
    · split at h
      · rename_i a rest heq
        obtain ⟨v, hv, rfl⟩ := Option.map_eq_some_iff.1 h
        have := length_attribute? heq
        have := length_tagEnd? hv
        simp only at *
        omega
      · cases h
    · cases h
termination_by s.length
decreasing_by
  have := length_attribute? ‹_›
  have := length_dropWhile_le isSpace s
  simp only at *
  omega

/-- What follows `<`: a start tag. -/
def opening? (s : List Char) : Option (Token × List Char) :=
  (QName.ofChars? (s.takeWhile isNameChar)).bind fun name =>
    (tagEnd? (s.dropWhile isNameChar)).map fun r => (.opening name r.1 r.2.1, r.2.2)

/-- What follows the `<` and `/` of an end tag. -/
def closing? (s : List Char) : Option (Token × List Char) :=
  (QName.ofChars? (s.takeWhile isNameChar)).bind fun name =>
    match (s.dropWhile isNameChar).dropWhile isSpace with
    | '>' :: rest => some (.closing name, rest)
    | _ => none

/-- What follows the opening of a comment: no two hyphens but those before its end. -/
def comment? (s : List Char) : Option (Token × List Char) :=
  (upTo ['-', '-'] s).bind fun r =>
    match r.2 with
    | '>' :: rest => some (.aside, rest)
    | _ => none

/-- Whether a text begins as the target of an instruction must; a colon counts like a letter
here. -/
def beginsTarget : List Char → Bool
  | [] => false
  | c :: _ => c = ':' || isNameStart c

/-- What begins a declaration, after `<?`: the name `xml` and a space. With any other character
after the name it is an instruction like others. -/
def declarationMark : List Char := ['x', 'm', 'l', ' ']

/-- What follows the opening of an instruction: its target, and anything up to its end. A
declaration is none, since it stands only at the very start of a document. -/
def instruction? (s : List Char) : Option (Token × List Char) :=
  if !beginsTarget s || declarationMark.isPrefixOf s then none
  else (upTo ['?', '>'] (s.dropWhile isNameChar)).map fun r => (.aside, r.2)

/-- Character data up to the next tag. Its references are not void, and the end of a marked section
does not stand in it. -/
def data? (s : List Char) : Option (Token × List Char) :=
  let text := s.takeWhile (· != '<')
  if text.all isSpace then some (.blank, s.dropWhile (· != '<'))
  else if (upTo [']', ']', '>'] text).isSome || (decode text).isNone then none
  else some (.data, s.dropWhile (· != '<'))

/-- The piece of markup at the front of a text that is not empty. -/
def token? : List Char → Option (Token × List Char)
  | '<' :: '/' :: rest => closing? rest
  | '<' :: '?' :: rest => instruction? rest
  | '<' :: '!' :: '-' :: '-' :: rest => comment? rest
  | '<' :: '!' :: '[' :: 'C' :: 'D' :: 'A' :: 'T' :: 'A' :: '[' :: rest =>
    (upTo [']', ']', '>'] rest).map fun r => (.data, r.2)
  | '<' :: rest => opening? rest
  | s => data? s

/-! ### Every piece is longer than nothing -/

theorem length_upTo {mark s : List Char} {r : List Char × List Char} (h : upTo mark s = some r) :
    r.2.length ≤ s.length := by
  induction s generalizing r with
  | nil =>
    unfold upTo at h
    split at h
    · cases h; simp
    · cases h
  | cons c rest ih =>
    unfold upTo at h
    split at h
    · cases h
      simp only [List.length_drop]
      omega
    · obtain ⟨v, hv, rfl⟩ := Option.map_eq_some_iff.1 h
      have := ih hv
      simp only [List.length_cons]
      omega

theorem length_opening? {s : List Char} {r : Token × List Char} (h : opening? s = some r) :
    r.2.length ≤ s.length := by
  obtain ⟨name, -, h⟩ := Option.bind_eq_some_iff.1 h
  obtain ⟨v, hv, rfl⟩ := Option.map_eq_some_iff.1 h
  have := length_tagEnd? hv
  have := length_dropWhile_le isNameChar s
  simp only
  omega

theorem length_closing? {s : List Char} {r : Token × List Char} (h : closing? s = some r) :
    r.2.length ≤ s.length := by
  obtain ⟨name, -, h⟩ := Option.bind_eq_some_iff.1 h
  have le := length_dropWhile_le isSpace (s.dropWhile isNameChar)
  have le' := length_dropWhile_le isNameChar s
  split at h
  · rename_i heq
    rw [heq] at le
    cases h
    simp only [List.length_cons] at *
    omega
  · cases h

theorem length_comment? {s : List Char} {r : Token × List Char} (h : comment? s = some r) :
    r.2.length ≤ s.length := by
  obtain ⟨v, hv, h⟩ := Option.bind_eq_some_iff.1 h
  have le := length_upTo hv
  split at h
  · rename_i heq
    rw [heq] at le
    cases h
    simp only [List.length_cons] at *
    omega
  · cases h

theorem length_instruction? {s : List Char} {r : Token × List Char}
    (h : instruction? s = some r) : r.2.length ≤ s.length := by
  unfold instruction? at h
  split at h
  · cases h
  · obtain ⟨v, hv, rfl⟩ := Option.map_eq_some_iff.1 h
    have := length_upTo hv
    have := length_dropWhile_le isNameChar s
    simp only
    omega

theorem length_data? {c : Char} {s : List Char} {r : Token × List Char} (hc : c ≠ '<')
    (h : data? (c :: s) = some r) : r.2.length < (c :: s).length := by
  have le := length_dropWhile_le (· != '<') s
  have first : (c :: s).dropWhile (· != '<') = s.dropWhile (· != '<') := by
    simp [hc]
  unfold data? at h
  simp only [first] at h
  split at h
  · cases h
    simp only [List.length_cons]
    omega
  · split at h
    · cases h
    · cases h
      simp only [List.length_cons]
      omega

theorem length_token? {s : List Char} {r : Token × List Char} (hs : s ≠ [])
    (h : token? s = some r) : r.2.length < s.length := by
  unfold token? at h
  split at h
  · have := length_closing? h
    simp only [List.length_cons]; omega
  · have := length_instruction? h
    simp only [List.length_cons]; omega
  · have := length_comment? h
    simp only [List.length_cons]; omega
  · obtain ⟨v, hv, rfl⟩ := Option.map_eq_some_iff.1 h
    have := length_upTo hv
    simp only [List.length_cons]; omega
  · have := length_opening? h
    simp only [List.length_cons]; omega
  · cases s with
    | nil => exact absurd rfl hs
    | cons c rest =>
      refine length_data? ?_ h
      rintro rfl
      rename_i no
      exact no rest rfl

/-- The pieces of markup of a text, in order. -/
def tokens (s : List Char) : Option (List Token) :=
  if _hs : s = [] then some []
  else
    match _h : token? s with
    | none => none
    | some (t, rest) => (tokens rest).map (t :: ·)
termination_by s.length
decreasing_by
  have := length_token? _hs _h
  simpa using this

end FpgaHost.Xml
