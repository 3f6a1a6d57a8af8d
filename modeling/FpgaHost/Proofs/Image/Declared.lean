import FpgaHost.Proofs.Image.Document
import Mathlib.Algebra.GroupWithZero.Nat

/-!
# What the document of a specification declares

The elements of a document declare what the specification says (`ofElement_projectElement`): its
kernels in order, each numbered from the end of the one before, and its arguments in one table
without gaps, whether they carry identifiers or not. So a faithful reader of documents finds in the
document of a specification what the specification says (`documentIn_printed`,
`readWith_document`). The reader at hand is one; for it the main statement is `read_document`.

The identifier of an argument is its position in its kernel as a word of 64 bits. A kernel with more
arguments than there are words could not be held in memory, let alone read.
-/

namespace FpgaHost

open Xml Manifest

/-- The category that the qualifier of an argument says: a qualifier that is no number says as
little as none. -/
def ArgSpec.category (a : ArgSpec) : ArgCategory :=
  match a.qualifier with
  | none => .unknown (-1)
  | some q =>
    match Text.signed64? (Text.trim q) with
    | none => .unknown (-1)
    | some code => .ofQualifier code

/-- The argument that is declared at an index. -/
def ArgSpec.declared (a : ArgSpec) (index : Nat) : Argument where
  index
  name := a.name
  typeName := a.typeName
  category := a.category

namespace ImageSpec

/-! ### Arguments -/

section Arguments

variable {explicitIds : Bool} {position : Nat} {a : ArgSpec}

theorem name_argumentElement :
    (argumentElement explicitIds position a).attribute? "name" = some a.name := by
  rw [argumentElement, attribute?_attributesOf]
  rfl

theorem qualifier_argumentElement :
    (argumentElement explicitIds position a).attribute? "addressQualifier" = a.qualifier := by
  rw [argumentElement, attribute?_attributesOf]
  obtain ⟨name, typeName, qualifier⟩ := a
  cases qualifier <;> cases explicitIds <;> rfl

theorem id_argumentElement :
    (argumentElement explicitIds position a).attribute? "id" =
      if explicitIds then some (toString position) else none := by
  rw [argumentElement, attribute?_attributesOf]
  obtain ⟨name, typeName, qualifier⟩ := a
  cases qualifier <;> cases explicitIds <;> rfl

theorem type_argumentElement :
    (argumentElement explicitIds position a).attribute? "type" = some a.typeName := by
  rw [argumentElement, attribute?_attributesOf]
  obtain ⟨name, typeName, qualifier⟩ := a
  cases qualifier <;> cases explicitIds <;> rfl

theorem argumentCategory_qualifier (a : ArgSpec) : argumentCategory a.qualifier = a.category := by
  rw [argumentCategory, ArgSpec.category]
  cases a.qualifier with
  | none => rfl
  | some q =>
    simp only [Option.bind_some]
    cases Text.signed64? (Text.trim q) <;> rfl

/-- An argument is declared at its position from the first index of its kernel on. -/
theorem argument_argumentElement (first : Nat) (word : position < 2 ^ 64) :
    argument first (argumentElement explicitIds position a) position =
      .ok (a.declared (first + position)) := by
  have offset : argumentOffset (argumentElement explicitIds position a) a.name position =
      .ok position := by
    rw [argumentOffset, id_argumentElement]
    cases explicitIds with
    | false => rfl
    | true =>
      have read : Text.word64? (toString position) = some position := Text.natural?_toString word
      simp only [if_true, Text.trim_toString, read]
  simp only [argument, required, name_argumentElement, type_argumentElement, ok_bind, offset,
    qualifier_argumentElement, argumentCategory_qualifier]
  rfl

end Arguments

/-- Arguments declared one after the other fill a table without gaps. -/
theorem addArguments_argumentElements (explicitIds : Bool) {args : List ArgSpec} (kernel : String)
    {first position : Nat} {t : ArgumentTable} (dense : t.Dense (first + position))
    (words : position + args.length ≤ 2 ^ 64) :
    ∃ filled, addArguments kernel first position (argumentElements explicitIds position args) t =
        .ok filled ∧ filled.Dense (first + position + args.length) ∧
      filled.entries = t.entries ++
        (args.zipIdx (first + position)).map fun a => (a.2, a.1.declared a.2) := by
  induction args generalizing position t with
  | nil =>
    refine ⟨t, rfl, dense, ?_⟩
    rw [List.zipIdx_nil, List.map_nil, List.append_nil]
  | cons a rest ih =>
    rw [List.length_cons] at words
    have next : Table.Dense (t.insert (first + position) (a.declared (first + position)))
        (first + (position + 1)) := dense.insert _
    have fresh : ¬t.contains (a.declared (first + position)).index = true := by
      rw [show (a.declared (first + position)).index = first + position from rfl, dense.contains]
      exact Bool.false_ne_true
    obtain ⟨filled, added, full, entries⟩ := ih next (by omega)
    refine ⟨filled, ?_, ?_, ?_⟩
    · rw [argumentElements, List.zipIdx_cons, List.map_cons, addArguments_cons,
        argument_argumentElement first (by omega), ok_bind, if_neg fresh]
      exact added
    · rw [List.length_cons, show first + position + (rest.length + 1) =
        first + (position + 1) + rest.length by omega]
      exact full
    · rw [entries, dense.entries_insert, List.zipIdx_cons, List.map_cons, List.append_assoc]
      rfl

/-! ### Kernels -/

theorem nextIndex_of_dense {t : ArgumentTable} {n : Nat} (dense : t.Dense n) :
    t.nextIndex = n := by
  rw [ArgumentTable.nextIndex, Table.lastKey?, dense, List.getLast?_range]
  cases n with
  | zero => rfl
  | succ n => rfl

theorem childrenTagged_kernelElement (explicitIds : Bool) (k : KernelSpec) :
    (kernelElement explicitIds k).childrenTagged "arg" = argumentElements explicitIds 0 k.args := by
  refine List.filter_eq_self.2 fun e mem => ?_
  obtain ⟨a, -, rfl⟩ := List.mem_map.1 mem
  rfl

/-- The declarations of kernels, the first of them numbered from an index. -/
def declarationsFrom (first : Nat) : List KernelSpec → List KernelDecl
  | [] => []
  | k :: rest => ⟨k.name, first, k.args.length⟩ :: declarationsFrom (first + k.args.length) rest

/-- The arguments of kernels with their indices, the first of them at an index. -/
def argumentsFrom (first : Nat) (ks : List KernelSpec) : List (Nat × Argument) :=
  ((ks.flatMap (·.args)).zipIdx first).map fun a => (a.2, a.1.declared a.2)

theorem argumentsFrom_cons (first : Nat) (k : KernelSpec) (rest : List KernelSpec) :
    argumentsFrom first (k :: rest) =
      ((k.args.zipIdx first).map fun a => (a.2, a.1.declared a.2)) ++
        argumentsFrom (first + k.args.length) rest := by
  rw [argumentsFrom, List.flatMap_cons, List.zipIdx_append, List.map_append, argumentsFrom]

theorem addKernels_kernelElements (explicitIds : Bool) {ks : List KernelSpec}
    (words : ∀ k ∈ ks, k.args.length ≤ 2 ^ 64) (done : List KernelDecl) {first : Nat}
    {t : ArgumentTable} (dense : t.Dense first) :
    ∃ filled, addKernels (ks.map (kernelElement explicitIds)) done t =
        .ok (done.reverse ++ declarationsFrom first ks, filled) ∧
      filled.entries = t.entries ++ argumentsFrom first ks := by
  induction ks generalizing done first t with
  | nil =>
    refine ⟨t, ?_, ?_⟩
    · rw [declarationsFrom, List.append_nil]
      rfl
    · rw [argumentsFrom, List.flatMap_nil, List.zipIdx_nil, List.map_nil, List.append_nil]
  | cons k rest ih =>
    have named : required (kernelElement explicitIds k) "name" = .ok k.name := by
      rw [required, kernelElement, attribute?_attributesOf]
      rfl
    have few : 0 + k.args.length ≤ 2 ^ 64 := by
      rw [Nat.zero_add]
      exact words k List.mem_cons_self
    have length : (argumentElements explicitIds 0 k.args).length = k.args.length := by
      rw [argumentElements, List.length_map, List.length_zipIdx]
    obtain ⟨middle, added, full, entries⟩ :=
      addArguments_argumentElements explicitIds k.name dense few
    obtain ⟨filled, later, all⟩ := ih (fun l mem => words l (List.mem_cons_of_mem k mem))
      (⟨k.name, first, k.args.length⟩ :: done) full
    refine ⟨filled, ?_, ?_⟩
    · simp only [List.map_cons, addKernels, named, ok_bind, nextIndex_of_dense dense,
        childrenTagged_kernelElement, added, length]
      rw [later, declarationsFrom, List.reverse_cons, List.append_assoc]
      rfl
    · rw [all, entries, argumentsFrom_cons, List.append_assoc]
      rfl

/-- The index of a kernel's first argument is the number of arguments of the kernels before it. -/
theorem declarationsFrom_eq_mapIdx (first : Nat) (ks : List KernelSpec) :
    declarationsFrom first ks = ks.mapIdx fun i k =>
      ⟨k.name, first + ((ks.take i).map (·.args.length)).sum, k.args.length⟩ := by
  induction ks generalizing first with
  | nil => rfl
  | cons k rest ih =>
    rw [declarationsFrom, ih, List.mapIdx_cons]
    simp [Nat.add_assoc]

/-! ### The manifest -/

theorem keys_argumentsFrom (ks : List KernelSpec) :
    (argumentsFrom 0 ks).map (·.1) = List.range (ks.flatMap (·.args)).length := by
  rw [argumentsFrom, List.map_map, List.range_eq_range', ← List.zipIdx_map_snd 0]
  rfl

/-- What the manifest of a specification says: the kernels in order, each with the number of
arguments before its own, and the arguments of all kernels in order, numbered from zero. -/
def manifest (s : ImageSpec) : Manifest where
  target := some s.target
  kernels := s.kernels.mapIdx fun i k =>
    ⟨k.name, ((s.kernels.take i).map (·.args.length)).sum, k.args.length⟩
  args := {
    entries := ((s.kernels.flatMap (·.args)).zipIdx).map fun a => (a.2, a.1.declared a.2)
    ordered := by
      have keys : List.Pairwise (· < ·) ((argumentsFrom 0 s.kernels).map (·.1)) := by
        rw [keys_argumentsFrom]
        exact List.pairwise_lt_range
      exact List.pairwise_map.1 keys }

/-- The elements of a specification declare its manifest, unless there is no kernel. -/
theorem ofElement_projectElement {s : ImageSpec} (words : ∀ k ∈ s.kernels, k.args.length ≤ 2 ^ 64) :
    ofElement s.projectElement =
      if s.kernels = [] then .error .noKernel else .ok s.manifest := by
  have kernels : s.coreElement.childrenTagged "kernel" =
      s.kernels.map (kernelElement s.explicitIds) := by
    refine List.filter_eq_self.2 fun e mem => ?_
    obtain ⟨k, -, rfl⟩ := List.mem_map.1 mem
    rfl
  have target : s.coreElement.attribute? "target" = some s.target := by
    rw [coreElement, attribute?_attributesOf]
    rfl
  have platform : requiredChild s.projectElement "platform" = .ok s.platformElement := rfl
  have device : requiredChild s.platformElement "device" = .ok s.deviceElement := rfl
  have core : requiredChild s.deviceElement "core" = .ok s.coreElement := rfl
  obtain ⟨filled, added, entries⟩ :=
    addKernels_kernelElements s.explicitIds words [] Table.Dense.empty
  have args : filled = s.manifest.args := Table.ext_entries entries
  have decls : [].reverse ++ declarationsFrom 0 s.kernels = s.manifest.kernels := by
    rw [List.reverse_nil, List.nil_append, declarationsFrom_eq_mapIdx]
    simp only [Nat.zero_add, manifest]
  have root : ¬s.projectElement.tag ≠ "project" := not_not_intro rfl
  rw [ofElement_eq, if_neg root]
  simp only [platform, device, core, ok_bind, kernels, added, target, args, decls]
  by_cases none : s.kernels = []
  · have empty : s.manifest.kernels.isEmpty = true := by simp [manifest, none]
    rw [if_pos empty, if_pos none]
  · have filled : ¬s.manifest.kernels.isEmpty = true := by simp [manifest, none]
    rw [if_neg filled, if_neg none]
    rfl

section

variable {reader : Reader} {s : ImageSpec}

/-- The document of a specification is the element of the specification as it is read. -/
theorem documentIn_printed (faithful : reader.Faithful) (generated : s.manifestText = none)
    (printable : s.Printable) :
    documentIn reader (.ofList (Utf8.encode s.document)) = .ok s.normalized.projectElement := by
  have text : Utf8.encode s.document = Utf8.encodeChars s.generatedChars := by
    rw [document, generated]
    exact congrArg Utf8.encodeChars String.toList_ofList
  have zero : '\x00' ∉ s.generatedChars := fun mem =>
    absurd (isChar_generatedChars printable _ mem) (by decide)
  rw [text, documentIn, withoutTrailingZeros_ofList (Utf8.zero_notMem_encodeChars zero),
    Utf8.decode?_encodeChars]
  simp only [faithful _ _ (isDocument_generatedChars printable)]

theorem readWith_printed (faithful : reader.Faithful) (generated : s.manifestText = none)
    (printable : s.Printable) :
    readWith reader (.ofList (Utf8.encode s.document)) = ofElement s.normalized.projectElement := by
  rw [readWith, documentIn_printed faithful generated printable, ok_bind]

/-- What every faithful reader makes of the document of a specification: the manifest that the
specification describes, or, if it has no kernel, the refusal for that. -/
theorem readWith_document (faithful : reader.Faithful) (generated : s.manifestText = none)
    (legible : s.Legible) :
    readWith reader (.ofList (Utf8.encode s.document)) =
      if s.kernels = [] then .error .noKernel else .ok s.manifest := by
  obtain ⟨printable, same⟩ := legible_iff.1 legible
  rw [readWith_printed faithful generated printable, same]
  exact ofElement_projectElement legible.words

end

/-- What reading the document of a specification comes to: the manifest that the specification
describes, or, if it has no kernel, the refusal for that. -/
theorem read_document {s : ImageSpec} (generated : s.manifestText = none) (legible : s.Legible) :
    Manifest.read (.ofList (Utf8.encode s.document)) =
      if s.kernels = [] then .error .noKernel else .ok s.manifest :=
  readWith_document faithful_parse? generated legible

/-- Texts that look like markup, a qualifier with white space around it and one that is no number,
and a kernel without a name. -/
def marked : ImageSpec :=
  let s := (ofKernel "a\"b<&amp;>'" "k&1").arg ⟨"x<y", "&lt;", some " 4 "⟩
  let s := s.arg ⟨"", "]]>", some "one"⟩
  s.kernel "" |>.arg ⟨"<!--", "\"", none⟩

theorem legible_marked : marked.Legible where
  device := by decide
  target := by decide
  kernels := by decide
  args := by decide
  words := by decide

theorem read_document_marked :
    marked.manifestText = none ∧ marked.Legible ∧
      Manifest.read (.ofList (Utf8.encode marked.document)) = .ok marked.manifest ∧
      marked.manifest.kernels = [⟨"k&1", 0, 2⟩, ⟨"", 2, 1⟩] ∧
      marked.manifest.args.values.map (·.category) = [.stream, .unknown (-1), .unknown (-1)] :=
  ⟨rfl, legible_marked, (read_document rfl legible_marked).trans (if_neg (by decide)), rfl,
    by decide⟩

end ImageSpec

end FpgaHost
