import FpgaHost.Proofs.Image.Faults

/-!
# Which format an image is in

Readers of several formats are asked in turn, and the first of them that does not decline settles
the answer, an error as well as an image; readers behind it do not matter. If all of them decline
then the format is not recognized, and the answer says how many were asked.

The reader of images with header, directory and sections declines what does not begin with the magic
bytes and nothing else: its errors for a malformed image say what is wrong with that, never that it
is of another format.

Main statement: `FormatReader.identify_first`.
-/

namespace FpgaHost

namespace FormatReader

variable {image : Bytes}

/-! ### Readers in turn -/

/-- The reader takes the bytes to be of another format. -/
def Declines (reader : FormatReader) (image : Bytes) : Prop := reader image = .ok none

/-- A reader is the first of some readers that does not decline. -/
def First (image : Bytes) (readers : List FormatReader) (reader : FormatReader) : Prop :=
  ∃ before after, readers = before ++ reader :: after ∧ (∀ r ∈ before, r.Declines image) ∧
    ¬reader.Declines image

/-- Readers that decline are passed over and counted. -/
theorem firstOf_append {before : List FormatReader} (declined : ∀ r ∈ before, r.Declines image)
    (tried : Nat) (rest : List FormatReader) :
    firstOf image tried (before ++ rest) = firstOf image (tried + before.length) rest := by
  induction before generalizing tried with
  | nil => rfl
  | cons r before ih =>
    have first : r image = .ok none := declined r List.mem_cons_self
    have others : ∀ r ∈ before, r.Declines image := fun r mem =>
      declined r (List.mem_cons_of_mem _ mem)
    have count : tried + 1 + before.length = tried + (r :: before).length := by
      rw [List.length_cons, Nat.add_assoc, Nat.add_comm 1]
    rw [List.cons_append, firstOf, first]
    simp only
    rw [ih others, count]

/-- A reader that does not decline settles the answer. -/
theorem firstOf_cons {reader : FormatReader} (answers : ¬reader.Declines image) (tried : Nat)
    (rest : List FormatReader) :
    (firstOf image tried (reader :: rest)).map some = reader image := by
  rw [firstOf]
  cases answer : reader image with
  | error e => rfl
  | ok found =>
    cases found with
    | none => exact absurd answer answers
    | some i => rfl

theorem identify_of_declined {readers : List FormatReader}
    (declined : ∀ r ∈ readers, r.Declines image) :
    identify readers image = .error (.unrecognizedFormat image.size readers.length) := by
  have passed := firstOf_append declined 0 []
  rw [List.append_nil, Nat.zero_add] at passed
  rw [identify, passed, firstOf]

theorem identify_of_first {readers : List FormatReader} {reader : FormatReader}
    (first : First image readers reader) : (identify readers image).map some = reader image := by
  obtain ⟨before, after, rfl, declined, answers⟩ := first
  rw [identify, firstOf_append declined, firstOf_cons answers]

/-- Either all readers decline or one of them is the first that does not. -/
theorem declined_or_first (readers : List FormatReader) :
    (∀ r ∈ readers, r.Declines image) ∨ ∃ reader, First image readers reader := by
  induction readers with
  | nil => exact .inl nofun
  | cons r rest ih =>
    by_cases first : r.Declines image
    · rcases ih with all | ⟨reader, before, after, rfl, declined, answers⟩
      · exact .inl (List.forall_mem_cons.2 ⟨first, all⟩)
      · exact .inr ⟨reader, r :: before, after, rfl, List.forall_mem_cons.2 ⟨first, declined⟩,
          answers⟩
    · exact .inr ⟨r, [], rest, rfl, nofun, first⟩

/-- That no format was recognized is the answer if all readers decline, or if the first that does
not decline says so itself. -/
theorem identify_eq_unrecognized_iff {readers : List FormatReader} :
    identify readers image = .error (.unrecognizedFormat image.size readers.length) ↔
      (∀ r ∈ readers, r.Declines image) ∨ ∃ reader, First image readers reader ∧
        reader image = .error (.unrecognizedFormat image.size readers.length) := by
  constructor
  · intro unrecognized
    refine (declined_or_first readers).imp_right fun ⟨reader, first⟩ => ⟨reader, first, ?_⟩
    rw [← identify_of_first first, unrecognized]
    rfl
  · rintro (declined | ⟨reader, first, answer⟩)
    · exact identify_of_declined declined
    · exact eq_of_map_some ((identify_of_first first).trans answer)

/-! ### Images with header, directory and sections -/

/-- An error that says what is wrong with an image does not say that it is of another format. -/
theorem isNotRecognized_of_fault {e : ImageError} (fault : Image.Fault image e) :
    e.isNotRecognized = false := by
  cases fault <;> rfl

theorem xclbin_of_magic (magic : hasMagic image = true) :
    xclbin image = (Image.read image).map some := by
  rw [xclbin]
  cases answer : Image.read image with
  | ok i => rfl
  | error e =>
    have recognized := isNotRecognized_of_fault (Image.failsOnly_read magic e answer)
    simp only [recognized, Bool.false_eq_true, if_false]
    rfl

theorem xclbin_declines_iff : xclbin.Declines image ↔ hasMagic image = false := by
  constructor
  · intro declined
    refine Bool.eq_false_iff.2 fun magic => ?_
    rw [Declines, xclbin_of_magic magic] at declined
    cases answer : Image.read image <;> simp [answer, Except.map] at declined
  · intro foreign
    simp only [Declines, xclbin, Image.read_of_foreign foreign, ImageError.isNotRecognized, if_true]

end FormatReader

namespace Image

variable {image : Bytes}

/-- What reading bytes in any of the formats comes to. -/
theorem ofBytes_eq (image : Bytes) :
    ofBytes image =
      if hasMagic image then read image else .error (.unrecognizedFormat image.size 1) := by
  cases magic : hasMagic image with
  | false =>
    have declined : ∀ r ∈ FormatReader.default, r.Declines image :=
      List.forall_mem_singleton.2 (FormatReader.xclbin_declines_iff.2 magic)
    exact FormatReader.identify_of_declined declined
  | true =>
    have answers : ¬FormatReader.xclbin.Declines image := by
      rw [FormatReader.xclbin_declines_iff, magic]
      exact Bool.noConfusion
    have first : FormatReader.First image FormatReader.default FormatReader.xclbin :=
      ⟨[], [], rfl, nofun, answers⟩
    exact eq_of_map_some
      ((FormatReader.identify_of_first first).trans (FormatReader.xclbin_of_magic magic))

/-- The error for bytes with the magic ones says what is wrong with them. -/
theorem fault_of_ofBytes (magic : hasMagic image = true) {e : ImageError}
    (refused : ofBytes image = .error e) : Fault image e := by
  rw [ofBytes_eq, if_pos magic] at refused
  exact failsOnly_read magic e refused

end Image

namespace FormatReader

/-! ### The answer -/

/-- The first reader that does not decline settles the answer, whatever readers stand behind it.
That no format is recognized is the answer exactly if all readers decline, unless the first that
does not decline gives this very answer as its own. The reader of images with header, directory and
sections declines bytes that do not begin with the magic ones and reads all others as `Image.read`
does. So the readers that are asked by default never answer that the bytes are not an image, and
never that no format is recognized if the bytes begin with the magic ones. -/
theorem identify_first (image : Bytes) :
    (∀ before reader after, (∀ r ∈ before, Declines r image) → ¬Declines reader image →
      (identify (before ++ reader :: after) image).map some = reader image) ∧
    (∀ readers : List FormatReader,
      identify readers image = .error (.unrecognizedFormat image.size readers.length) ↔
        (∀ r ∈ readers, r.Declines image) ∨ ∃ reader, First image readers reader ∧
          reader image = .error (.unrecognizedFormat image.size readers.length)) ∧
    (∀ readers : List FormatReader,
      (∀ r ∈ readers, r image ≠ .error (.unrecognizedFormat image.size readers.length)) →
        (identify readers image = .error (.unrecognizedFormat image.size readers.length) ↔
          ∀ r ∈ readers, r.Declines image)) ∧
    (xclbin.Declines image ↔ image.size < 8 ∨ image.toList.take 8 ≠ Layout.magic) ∧
    (¬xclbin.Declines image → xclbin image = (Image.read image).map some) ∧
    Image.ofBytes image ≠ .error .notRecognized ∧
    (8 ≤ image.size → image.toList.take 8 = Layout.magic →
      ∀ size tried, Image.ofBytes image ≠ .error (.unrecognizedFormat size tried)) := by
  refine ⟨fun before reader after declined answers => ?_, fun readers => ?_,
    fun readers others => ?_, ?_, fun answers => ?_, fun refused => ?_,
    fun long begins size tried refused => ?_⟩
  · exact identify_of_first ⟨before, after, rfl, declined, answers⟩
  · exact identify_eq_unrecognized_iff
  · rw [identify_eq_unrecognized_iff, or_iff_left]
    rintro ⟨reader, ⟨before, after, rfl, -⟩, answer⟩
    exact others reader (List.mem_append_right before List.mem_cons_self) answer
  · rw [xclbin_declines_iff, Bool.eq_false_iff, ne_eq, hasMagic_iff, not_and_or, Nat.not_le]
  · rw [xclbin_declines_iff, Bool.not_eq_false] at answers
    exact xclbin_of_magic answers
  · cases magic : hasMagic image with
    | false => simp [Image.ofBytes_eq, magic] at refused
    | true => nomatch Image.fault_of_ofBytes magic refused
  · nomatch Image.fault_of_ofBytes (hasMagic_iff.2 ⟨long, begins⟩) refused

/-- A reader that knows no format. -/
def declining : FormatReader := fun _ => .ok none

/-- A reader that takes all bytes for images of its format and finds them malformed. -/
def failing : FormatReader := fun _ => .error (.manifest (.reported "reader failed"))

/-- A reader that declines does not matter, nor does one behind the first that does not decline. -/
theorem identify_first_twoBanks :
    let image := ImageSpec.twoBanks.build
    identify [declining, xclbin, failing] image =
        .ok (ImageSpec.twoBanks.assembled .hardwareEmulation ImageSpec.twoBanks.manifest) ∧
      identify [declining, failing, xclbin] image =
        .error (.manifest (.reported "reader failed")) ∧
      identify [declining, declining] image = .error (.unrecognizedFormat image.size 2) ∧
      Image.ofBytes (.ofList Layout.magic) ≠ .error (.unrecognizedFormat 8 1) := by
  intro image
  obtain ⟨settles, -, unrecognized, -, reads, -⟩ := identify_first image
  have declined : ∀ r ∈ [declining], Declines r image := List.forall_mem_singleton.2 rfl
  have answers : ¬xclbin.Declines image := by
    rw [xclbin_declines_iff, ImageSpec.hasMagic_build]
    exact Bool.noConfusion
  have image_read := reads answers
  rw [ImageSpec.read_twoBanks] at image_read
  refine ⟨?_, ?_, ?_, ?_⟩
  · exact eq_of_map_some ((settles [declining] xclbin [failing] declined answers).trans image_read)
  · exact eq_of_map_some (settles [declining] failing [xclbin] declined nofun)
  · have others : ∀ r ∈ [declining, declining],
        r image ≠ .error (.unrecognizedFormat image.size 2) := by
      simp [declining]
    exact (unrecognized [declining, declining] others).2 (by simp [Declines, declining])
  · exact (identify_first (.ofList Layout.magic)).2.2.2.2.2.2 (by decide) (by decide) 8 1

/-- A reader that asks others and passes their answer on. -/
def relaying : FormatReader := fun image => (identify [declining] image).map some

/-- The answer that no format is recognized does not mean that all readers declined: a reader that
does not decline may give it itself. -/
theorem unrecognized_not_declined :
    let image : Bytes := .ofList []
    let readers := [relaying]
    identify readers image = .error (.unrecognizedFormat image.size readers.length) ∧
      ¬∀ r ∈ readers, r.Declines image :=
  ⟨rfl, fun declined => nomatch declined relaying List.mem_cons_self⟩

end FormatReader

end FpgaHost
