import FpgaHost.Proofs.Image.Declared

/-!
# The white space in the texts of a specification

The texts of a specification are written as attribute values. A reader of XML resolves what stands
for the characters of markup, so of these none is lost. But it reads a tab and every end of a line
in a value as a space, and these are written as they are, not as references; so a text that has one
of them comes back as another text (`tab_not_read_back`).

Main statement: `read_document_normalized` says what comes back of every text that a document can
hold, and that it is the text itself only if it has no white space but spaces.
-/

namespace FpgaHost

open Xml

namespace ImageSpec

theorem kernels_normalized_eq_nil_iff {s : ImageSpec} :
    s.normalized.kernels = [] ↔ s.kernels = [] := List.map_eq_nil_iff

theorem words_normalized {s : ImageSpec} (words : ∀ k ∈ s.kernels, k.args.length ≤ 2 ^ 64) :
    ∀ k ∈ s.normalized.kernels, k.args.length ≤ 2 ^ 64 := by
  intro k mem
  obtain ⟨l, from_list, rfl⟩ := List.mem_map.1 mem
  rw [KernelSpec.normalized, List.length_map]
  exact words l from_list

/-- What every faithful reader makes of a document whose texts it may change. -/
theorem readWith_of_printable {reader : Reader} {s : ImageSpec} (faithful : reader.Faithful)
    (generated : s.manifestText = none) (printable : s.Printable) :
    Manifest.readWith reader (.ofList (Utf8.encode s.document)) =
      if s.kernels = [] then .error .noKernel else .ok s.normalized.manifest := by
  rw [readWith_printed faithful generated printable,
    ofElement_projectElement (words_normalized printable.words)]
  simp only [kernels_normalized_eq_nil_iff]

theorem read_of_printable {s : ImageSpec} (generated : s.manifestText = none)
    (printable : s.Printable) :
    Manifest.read (.ofList (Utf8.encode s.document)) =
      if s.kernels = [] then .error .noKernel else .ok s.normalized.manifest :=
  readWith_of_printable faithful_parse? generated printable

/-- What is read of the texts that are written as attribute values. Between its quotes a reader
finds the value with its white space as spaces, and that is the value itself exactly if it has
neither a tab nor a line feed nor a carriage return. A document says what its specification says
with all texts changed in this way, and a specification is legible, so that it comes back, exactly
if none of its texts is changed. -/
theorem read_document_normalized {s : ImageSpec} (generated : s.manifestText = none)
    (printable : s.Printable) :
    (∀ (name value : String) (rest : List Char), PlainName name →
      attribute? (name.toList ++ '=' :: '"' :: (escape value.toList ++ '"' :: rest)) =
        some (⟨⟨none, name⟩, normalize value⟩, rest)) ∧
    (∀ value : String, normalize value = value ↔
      ∀ c ∈ value.toList, c ≠ '\t' ∧ c ≠ '\n' ∧ c ≠ '\r') ∧
    Manifest.read (.ofList (Utf8.encode s.document)) =
      (if s.kernels = [] then .error .noKernel else .ok s.normalized.manifest) ∧
    (s.Legible ↔ s.normalized = s) :=
  ⟨fun _ value rest plain => attribute?_append plain value rest, fun _ => normalize_eq_self_iff,
    read_of_printable generated printable, legible_iff.trans (and_iff_right printable)⟩

/-- A specification with all kinds of white space in its texts. -/
def spacedOut : ImageSpec := (ofKernel "d\te" "k\nl").arg ⟨"a\rb", "t\r\nu", some " 1\t"⟩

theorem printable_spacedOut : spacedOut.Printable where
  device := by decide
  target := by decide
  kernels := by decide
  args := by decide
  words := by decide

theorem read_document_normalized_spacedOut :
    spacedOut.manifestText = none ∧ spacedOut.Printable ∧ PlainName "name" ∧
      Manifest.read (.ofList (Utf8.encode spacedOut.document)) = .ok spacedOut.normalized.manifest ∧
      spacedOut.normalized.manifest.kernels = [⟨"k l", 0, 1⟩] ∧
      spacedOut.normalized.manifest.args.values = [⟨0, "a b", "t u", .mmap, none⟩] ∧
      attribute? "name=\"a\rb\">".toList = some (⟨⟨none, "name"⟩, "a b"⟩, ['>']) :=
  have law := read_document_normalized (s := spacedOut) rfl printable_spacedOut
  ⟨rfl, printable_spacedOut, by decide, law.2.2.1.trans (if_neg (by decide)), by decide, by decide,
    law.1 "name" "a\rb" ['>'] (by decide)⟩

/-- The name of a kernel may have a tab in it. It is written as it is, and a space is read. -/
theorem tab_not_read_back :
    Xml.Printable "k\t0".toList ∧ decode (escape "k\t0".toList) ≠ some "k\t0".toList ∧
      ∃ m, Manifest.read (.ofList (Utf8.encode (ofKernel "u200" "k\t0").document)) = .ok m ∧
        m.kernels = [⟨"k 0", 0, 0⟩] := by
  have printable : (ofKernel "u200" "k\t0").Printable :=
    ⟨by decide, by decide, by decide, by decide, by decide⟩
  refine ⟨by decide, by decide, _, (read_of_printable rfl printable).trans (if_neg (by decide)), ?_⟩
  decide

end ImageSpec

end FpgaHost
