import FpgaHost.Xml.Value

/-!
# What is read of a text that is written as an attribute value

Writing replaces the four characters that markup uses by references, one character after the other
or all occurrences of one in the whole text and then of the next (`escape_eq_replaceAll`). Reading
resolves the references. It takes every end of a line for a line feed and every white space for a
space (`normalized`), and nothing else changes: `decode_escape`. So a text comes back if and only if
its only white space are spaces (`normalized_eq_self_iff`); a text that is that and can stand in a
document is `Writable`.

What is written holds neither the quote that ends the value nor the character that begins a tag
(`notMem_escape`), whatever the text is.
-/

namespace FpgaHost.Xml

/-- What is said of every character of a text is decided along the text. -/
instance (priority := high) decidableAlong {p : Char → Prop} [DecidablePred p]
    (text : List Char) : Decidable (∀ c ∈ text, p c) := List.decidableBAll p text

/-- A text that a document can hold. -/
def Printable (text : List Char) : Prop := ∀ c ∈ text, isChar c = true

instance (text : List Char) : Decidable (Printable text) :=
  inferInstanceAs (Decidable (∀ c ∈ text, isChar c = true))

/-- A text that a document can hold and an attribute value gives back: its characters may stand in
a document, and none is a tab, a line feed or a carriage return. -/
def Writable (text : List Char) : Prop :=
  ∀ c ∈ text, isChar c = true ∧ c ≠ '\t' ∧ c ≠ '\n' ∧ c ≠ '\r'

instance (text : List Char) : Decidable (Writable text) :=
  inferInstanceAs (Decidable (∀ c ∈ text, isChar c = true ∧ c ≠ '\t' ∧ c ≠ '\n' ∧ c ≠ '\r'))

/-! ### White space -/

/-- A text in which a line feed ends every line: a carriage return stands for one, and together with
the line feed behind it, it is one. -/
def unifyLineEnds : List Char → List Char
  | [] => []
  | c :: rest =>
    if c ≠ '\r' then c :: unifyLineEnds rest
    else if rest.head? = some '\n' then unifyLineEnds rest
    else '\n' :: unifyLineEnds rest

/-- White space as a space, any other character as it is. -/
def spaced (c : Char) : Char := if isSpace c then ' ' else c

/-- A text as the value of an attribute has it. -/
def normalized (text : List Char) : List Char := (unifyLineEnds text).map spaced

theorem spaced_eq_self {c : Char} (tab : c ≠ '\t') (feed : c ≠ '\n') (carriage : c ≠ '\r') :
    spaced c = c := by
  unfold spaced
  split
  · rename_i space
    simp only [isSpace, tab, feed, carriage, decide_false, Bool.or_false, decide_eq_true_eq] at space
    exact space.symm
  · rfl

theorem spaced_ne {c d : Char} (space : isSpace d = true) (other : d ≠ ' ') : spaced c ≠ d := by
  unfold spaced
  split
  · exact other.symm
  · rintro rfl
    contradiction

theorem normalized_cons_of_ne {c : Char} (carriage : c ≠ '\r') (rest : List Char) :
    normalized (c :: rest) = spaced c :: normalized rest := by
  rw [normalized, unifyLineEnds, if_pos carriage, List.map_cons, normalized]

theorem normalized_carriage_feed {rest : List Char} (feed : rest.head? = some '\n') :
    normalized ('\r' :: rest) = normalized rest := by
  rw [normalized, unifyLineEnds, if_neg (not_not_intro rfl), if_pos feed, normalized]

theorem normalized_carriage {rest : List Char} (alone : rest.head? ≠ some '\n') :
    normalized ('\r' :: rest) = ' ' :: normalized rest := by
  rw [normalized, unifyLineEnds, if_neg (not_not_intro rfl), if_neg alone, List.map_cons, normalized]
  rfl

/-- A text comes back if and only if its only white space are spaces. -/
theorem normalized_eq_self_iff {text : List Char} :
    normalized text = text ↔ ∀ c ∈ text, c ≠ '\t' ∧ c ≠ '\n' ∧ c ≠ '\r' := by
  constructor
  · intro same c mem
    rw [← same, normalized, List.mem_map] at mem
    obtain ⟨d, -, rfl⟩ := mem
    exact ⟨spaced_ne (by decide) (by decide), spaced_ne (by decide) (by decide),
      spaced_ne (by decide) (by decide)⟩
  · intro plain
    induction text with
    | nil => rfl
    | cons c rest ih =>
      obtain ⟨tab, feed, carriage⟩ := plain c List.mem_cons_self
      rw [normalized_cons_of_ne carriage, spaced_eq_self tab feed carriage,
        ih fun d mem => plain d (List.mem_cons_of_mem c mem)]

/-- A text as the value of an attribute has it, stored. -/
def normalize (text : String) : String := String.ofList (normalized text.toList)

theorem normalize_eq_self_iff {text : String} :
    normalize text = text ↔ ∀ c ∈ text.toList, c ≠ '\t' ∧ c ≠ '\n' ∧ c ≠ '\r' := by
  rw [← normalized_eq_self_iff, normalize, ← String.toList_inj, String.toList_ofList]

/-- The texts that are read back are those that a document can hold and reading does not change. -/
theorem writable_iff {text : String} :
    Writable text.toList ↔ Printable text.toList ∧ normalize text = text := by
  rw [normalize_eq_self_iff]
  exact ⟨fun writable => ⟨fun c mem => (writable c mem).1, fun c mem => (writable c mem).2⟩,
    fun h c mem => ⟨h.1 c mem, h.2 c mem⟩⟩

/-! ### How a text is written -/

theorem escape_cons (c : Char) (text : List Char) :
    escape (c :: text) = escapeChar c ++ escape text := List.flatMap_cons

/-- A text with another text in place of each occurrence of a character. -/
def replaceAll (c : Char) (replacement text : List Char) : List Char :=
  text.flatMap fun d => if d = c then replacement else [d]

/-- Writing in four passes over the whole text. The ampersand comes first: each later pass leaves
the references of the earlier ones alone. -/
theorem escape_eq_replaceAll (text : List Char) :
    escape text = replaceAll '"' "&quot;".toList (replaceAll '>' "&gt;".toList
      (replaceAll '<' "&lt;".toList (replaceAll '&' "&amp;".toList text))) := by
  simp only [replaceAll, List.flatMap_assoc]
  refine congrArg text.flatMap (funext fun c => ?_)
  unfold escapeChar
  by_cases amp : c = '&'
  · rw [if_pos amp, if_pos amp]
    rfl
  by_cases lt : c = '<'
  · rw [lt]
    rfl
  by_cases gt : c = '>'
  · rw [gt]
    rfl
  by_cases quot : c = '"'
  · rw [quot]
    rfl
  · simp only [amp, lt, gt, quot, if_false, List.flatMap_cons, List.flatMap_nil, List.append_nil]

/-! ### Reading what is written -/

/-- Only an ampersand and a carriage return have a meaning together with what follows. -/
theorem decodeFrom_plain {c : Char} (reference : c ≠ '&') (carriage : c ≠ '\r') (rest : List Char) :
    decodeFrom none (c :: rest) = (decodeFrom none rest).map (spaced c :: ·) := by
  rw [decodeFrom, if_neg reference, if_neg (by simp [carriage]), spaced]

/-- The reference or the character itself that stands for a character. -/
theorem decodeFrom_escapeChar {c : Char} (carriage : c ≠ '\r') (rest : List Char) :
    decodeFrom none (escapeChar c ++ rest) = (decodeFrom none rest).map (spaced c :: ·) := by
  unfold escapeChar
  split
  · rename_i amp
    rw [amp]
    rfl
  split
  · rename_i lt
    rw [lt]
    rfl
  split
  · rename_i gt
    rw [gt]
    rfl
  split
  · rename_i quot
    rw [quot]
    rfl
  · exact decodeFrom_plain ‹_› carriage rest

/-- A line feed begins what is written exactly if it begins the text. -/
theorem head?_escape_eq_feed_iff {text : List Char} :
    (escape text).head? = some '\n' ↔ text.head? = some '\n' := by
  cases text with
  | nil => exact Iff.rfl
  | cons c rest =>
    rw [escape_cons]
    unfold escapeChar
    split
    · rename_i amp
      simp [amp]
    split
    · rename_i lt
      simp [lt]
    split
    · rename_i gt
      simp [gt]
    split
    · rename_i quot
      simp [quot]
    · rfl

/-- Reading a written text answers the text but for its white space. -/
theorem decode_escape (text : List Char) : decode (escape text) = some (normalized text) := by
  rw [decode]
  induction text with
  | nil => rfl
  | cons c rest ih =>
    by_cases carriage : c = '\r'
    · subst carriage
      have written : escape ('\r' :: rest) = '\r' :: escape rest := rfl
      rw [written, decodeFrom, if_neg (by decide)]
      by_cases feed : rest.head? = some '\n'
      · rw [if_pos (by simp [head?_escape_eq_feed_iff.2 feed]), ih, normalized_carriage_feed feed]
      · have alone : (escape rest).head? ≠ some '\n' := mt head?_escape_eq_feed_iff.1 feed
        rw [if_neg (by simp [alone]), ih, normalized_carriage feed]
        rfl
    · rw [escape_cons, decodeFrom_escapeChar carriage, ih, normalized_cons_of_ne carriage,
        Option.map_some]

/-! ### What is written -/

theorem notMem_escapeChar {d : Char} (markup : d = '"' ∨ d = '<') (c : Char) :
    d ∉ escapeChar c := by
  unfold escapeChar
  split
  · rcases markup with rfl | rfl <;> decide
  split
  · rcases markup with rfl | rfl <;> decide
  split
  · rcases markup with rfl | rfl <;> decide
  split
  · rcases markup with rfl | rfl <;> decide
  · rw [List.mem_singleton]
    rcases markup with rfl | rfl
    · exact Ne.symm ‹_›
    · exact Ne.symm ‹_›

/-- A written value ends neither its quotes nor, by a tag, the attribute it stands in. -/
theorem notMem_escape {d : Char} (markup : d = '"' ∨ d = '<') (text : List Char) :
    d ∉ escape text := by
  rw [escape, List.mem_flatMap]
  rintro ⟨c, -, mem⟩
  exact notMem_escapeChar markup c mem

theorem Printable.escape {text : List Char} (printable : Printable text) :
    Printable (escape text) := by
  intro d mem
  rw [Xml.escape, List.mem_flatMap] at mem
  obtain ⟨c, from_text, mem⟩ := mem
  unfold escapeChar at mem
  split at mem
  · have all : ∀ e ∈ ['&', 'a', 'm', 'p', ';'], isChar e = true := by decide
    exact all d mem
  split at mem
  · have all : ∀ e ∈ ['&', 'l', 't', ';'], isChar e = true := by decide
    exact all d mem
  split at mem
  · have all : ∀ e ∈ ['&', 'g', 't', ';'], isChar e = true := by decide
    exact all d mem
  split at mem
  · have all : ∀ e ∈ ['&', 'q', 'u', 'o', 't', ';'], isChar e = true := by decide
    exact all d mem
  · rw [List.mem_singleton.1 mem]
    exact printable c from_text

end FpgaHost.Xml
