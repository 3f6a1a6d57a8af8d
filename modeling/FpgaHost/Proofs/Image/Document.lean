import FpgaHost.Image.Spec
import FpgaHost.Proofs.Image.Manifest
import FpgaHost.Proofs.Text.Encoding
import FpgaHost.Proofs.Text.Numeral
import FpgaHost.Proofs.Xml.Grammar
import Mathlib.Algebra.Group.Nat.Defs

/-!
# The document of a specification

The manifest that a specification gives is a text. It is a document with the elements that the
specification was written as (`isDocument_generatedChars`): a project around a platform around a
device around a core, in it one element per kernel and in that one per argument. A reader that
answers documents as it should finds these elements again.

The texts of the specification may be any that a document can hold (`Printable`): quotes, angle
brackets and ampersands are no exception, nor is text that looks like a reference. What is found are
the elements of the specification with the white space of its texts as it is read
(`ImageSpec.normalized`). Texts that an attribute value gives back (`Writable`) are found as they
are.
-/

namespace FpgaHost

open Xml

/-- The texts of an argument can be written. -/
structure ArgSpec.Legible (a : ArgSpec) : Prop where
  name : Writable a.name.toList
  typeName : Writable a.typeName.toList
  qualifier : ∀ q ∈ a.qualifier, Writable q.toList

instance (a : ArgSpec) : Decidable a.Legible :=
  decidable_of_iff (Writable a.name.toList ∧ Writable a.typeName.toList ∧
      ∀ q ∈ a.qualifier, Writable q.toList)
    ⟨fun h => ⟨h.1, h.2.1, h.2.2⟩, fun h => ⟨h.name, h.typeName, h.qualifier⟩⟩

/-! ### What is read of the texts -/

/-- The texts of an argument can stand in a document. -/
structure ArgSpec.Printable (a : ArgSpec) : Prop where
  name : Xml.Printable a.name.toList
  typeName : Xml.Printable a.typeName.toList
  qualifier : ∀ q ∈ a.qualifier, Xml.Printable q.toList

instance (a : ArgSpec) : Decidable a.Printable :=
  decidable_of_iff (Xml.Printable a.name.toList ∧ Xml.Printable a.typeName.toList ∧
      ∀ q ∈ a.qualifier, Xml.Printable q.toList)
    ⟨fun h => ⟨h.1, h.2.1, h.2.2⟩, fun h => ⟨h.name, h.typeName, h.qualifier⟩⟩

/-- An argument with its texts as they are read. -/
def ArgSpec.normalized (a : ArgSpec) : ArgSpec :=
  ⟨normalize a.name, normalize a.typeName, a.qualifier.map normalize⟩

/-- A kernel with its texts as they are read. -/
def KernelSpec.normalized (k : KernelSpec) : KernelSpec :=
  ⟨normalize k.name, k.args.map ArgSpec.normalized⟩

theorem map_eq_self_iff {α : Type} {f : α → α} {l : List α} : l.map f = l ↔ ∀ a ∈ l, f a = a := by
  conv => lhs; rhs; rw [← List.map_id l]
  exact List.map_inj_left

theorem ArgSpec.legible_iff {a : ArgSpec} : a.Legible ↔ a.Printable ∧ a.normalized = a := by
  obtain ⟨name, typeName, qualifier⟩ := a
  simp only [ArgSpec.normalized, ArgSpec.mk.injEq]
  constructor
  · rintro ⟨named, typed, qualified⟩
    have named := writable_iff.1 named
    have typed := writable_iff.1 typed
    refine ⟨⟨named.1, typed.1, fun q mem => (writable_iff.1 (qualified q mem)).1⟩,
      named.2, typed.2, ?_⟩
    cases qualifier with
    | none => rfl
    | some q => exact congrArg some (writable_iff.1 (qualified q rfl)).2
  · rintro ⟨⟨named, typed, qualified⟩, name_eq, type_eq, qualifier_eq⟩
    refine ⟨writable_iff.2 ⟨named, name_eq⟩, writable_iff.2 ⟨typed, type_eq⟩, ?_⟩
    rintro q ⟨⟩
    exact writable_iff.2 ⟨qualified q rfl, Option.some.inj qualifier_eq⟩

theorem KernelSpec.normalized_eq_self_iff {k : KernelSpec} :
    k.normalized = k ↔ normalize k.name = k.name ∧ ∀ a ∈ k.args, a.normalized = a := by
  obtain ⟨name, args⟩ := k
  rw [KernelSpec.normalized, KernelSpec.mk.injEq, map_eq_self_iff]

namespace ImageSpec

/-- A specification with the texts of its manifest as they are read. -/
def normalized (s : ImageSpec) : ImageSpec :=
  { s with
    device := normalize s.device
    target := normalize s.target
    kernels := s.kernels.map KernelSpec.normalized }

/-! ### The elements of a document -/

/-- The attributes of an argument in the order in which they are written. -/
def argumentAttributes (explicitIds : Bool) (position : Nat) (a : ArgSpec) :
    List (String × String) :=
  [("name", a.name)] ++ (a.qualifier.map fun q => ("addressQualifier", q)).toList ++
    (if explicitIds then [("id", toString position)] else []) ++ [("type", a.typeName)]

/-- The element of an argument. -/
def argumentElement (explicitIds : Bool) (position : Nat) (a : ArgSpec) : Element :=
  .mk ⟨none, "arg"⟩ (attributesOf (argumentAttributes explicitIds position a)) []

/-- The elements of arguments, the first of them at a position. -/
def argumentElements (explicitIds : Bool) (position : Nat) (args : List ArgSpec) : List Element :=
  (args.zipIdx position).map fun a => argumentElement explicitIds a.2 a.1

/-- The attributes of a kernel. -/
def kernelAttributes (k : KernelSpec) : List (String × String) :=
  [("name", k.name), ("language", "c")]

/-- The element of a kernel. -/
def kernelElement (explicitIds : Bool) (k : KernelSpec) : Element :=
  .mk ⟨none, "kernel"⟩ (attributesOf (kernelAttributes k)) (argumentElements explicitIds 0 k.args)

/-- The attributes of the core. -/
def coreAttributes (s : ImageSpec) : List (String × String) :=
  [("name", "OCL_REGION_0"), ("target", s.target), ("type", "clc_region")]

/-- The element of the core: all kernels. -/
def coreElement (s : ImageSpec) : Element :=
  .mk ⟨none, "core"⟩ (attributesOf s.coreAttributes) (s.kernels.map (kernelElement s.explicitIds))

/-- The element of the device: the core. -/
def deviceElement (s : ImageSpec) : Element :=
  .mk ⟨none, "device"⟩ (attributesOf [("name", s.device)]) [s.coreElement]

/-- The element of the platform: the device. -/
def platformElement (s : ImageSpec) : Element :=
  .mk ⟨none, "platform"⟩ (attributesOf [("vendor", "xilinx")]) [s.deviceElement]

/-- The element around all others. -/
def projectElement (s : ImageSpec) : Element :=
  .mk ⟨none, "project"⟩ (attributesOf [("name", "frt")]) [s.platformElement]

/-! ### How they are written -/

theorem attributesText_singleton (name value : String) :
    attributesText [(name, value)] = attributeText name value := by
  rw [attributesText, List.flatMap_singleton]
  rfl

theorem attributesText_append (a b : List (String × String)) :
    attributesText (a ++ b) = attributesText a ++ attributesText b := List.flatMap_append

theorem attributesText_argumentAttributes (explicitIds : Bool) (position : Nat) (a : ArgSpec) :
    attributesText (argumentAttributes explicitIds position a) =
      attributeText "name" a.name ++
        (match a.qualifier with
          | some q => attributeText "addressQualifier" q
          | none => []) ++
        (if explicitIds then attributeText "id" (toString position) else []) ++
        attributeText "type" a.typeName := by
  have qualified : attributesText (a.qualifier.map fun q => ("addressQualifier", q)).toList =
      (match a.qualifier with
        | some q => attributeText "addressQualifier" q
        | none => []) := by
    cases a.qualifier with
    | none => rfl
    | some q => exact attributesText_singleton _ q
  have numbered : attributesText (if explicitIds then [("id", toString position)] else []) =
      if explicitIds then attributeText "id" (toString position) else [] := by
    cases explicitIds with
    | false => rfl
    | true => exact attributesText_singleton _ _
  rw [argumentAttributes, attributesText_append, attributesText_append, attributesText_append,
    attributesText_singleton, attributesText_singleton, qualified, numbered]

theorem argumentText_eq (explicitIds : Bool) (position : Nat) (a : ArgSpec) :
    argumentText explicitIds position a =
      "          ".toList ++ (emptyText "arg" (argumentAttributes explicitIds position a) ++
        "\n".toList) := by
  have opens : "          <arg".toList = "          ".toList ++ '<' :: "arg".toList := rfl
  have ends : "/>\n".toList = ['/', '>'] ++ "\n".toList := rfl
  unfold argumentText
  cases found : a.qualifier <;>
    simp only [emptyText, attributesText_argumentAttributes, found, opens, ends,
      List.append_assoc, List.cons_append]

theorem kernelText_eq (explicitIds : Bool) (k : KernelSpec) :
    kernelText explicitIds k =
      "        ".toList ++ (elementText "kernel" (kernelAttributes k)
        ("\n".toList ++ (argumentTexts explicitIds 0 k.args ++ "        ".toList)) ++
        "\n".toList) := by
  have opens : "        <kernel".toList = "        ".toList ++ '<' :: "kernel".toList := rfl
  have middle : " language=\"c\">\n".toList =
      attributeText "language" "c" ++ '>' :: "\n".toList := rfl
  have ends : "        </kernel>\n".toList =
      "        ".toList ++ '<' :: '/' :: ("kernel".toList ++ ['>'] ++ "\n".toList) := rfl
  have attributes : attributesText (kernelAttributes k) =
      attributeText "name" k.name ++ attributeText "language" "c" := by
    rw [← attributesText_singleton, ← attributesText_singleton, ← attributesText_append]
    rfl
  unfold kernelText
  simp only [elementText, opens, middle, ends, attributes, List.append_assoc, List.cons_append,
    List.nil_append]

theorem generatedChars_eq (s : ImageSpec) :
    s.generatedChars = declarationText ++ ("\n".toList ++
      (elementText "project" [("name", "frt")]
        ("\n  ".toList ++ (elementText "platform" [("vendor", "xilinx")]
          ("\n    ".toList ++ (elementText "device" [("name", s.device)]
            ("\n      ".toList ++ (elementText "core" s.coreAttributes
              ("\n".toList ++ (s.kernels.flatMap (kernelText s.explicitIds) ++ "      ".toList)) ++
              "\n    ".toList)) ++
            "\n  ".toList)) ++
          "\n".toList)) ++
        "\n".toList)) := by
  have project : "<?xml version=\"1.0\" encoding=\"UTF-8\"?>\n<project name=\"frt\">\n".toList =
      declarationText ++ ("\n".toList ++ '<' :: ("project".toList ++
        (attributesText [("name", "frt")] ++ '>' :: "\n".toList))) := rfl
  have platform : "  <platform vendor=\"xilinx\">\n    <device".toList =
      "  ".toList ++ '<' :: ("platform".toList ++ (attributesText [("vendor", "xilinx")] ++
        '>' :: ("\n    ".toList ++ '<' :: "device".toList))) := rfl
  have core : ">\n      <core name=\"OCL_REGION_0\"".toList =
      '>' :: ("\n      ".toList ++ '<' :: ("core".toList ++
        attributeText "name" "OCL_REGION_0")) := rfl
  have kernels : " type=\"clc_region\">\n".toList =
      attributeText "type" "clc_region" ++ '>' :: "\n".toList := rfl
  have ends : "      </core>\n    </device>\n  </platform>\n</project>\n".toList =
      "      ".toList ++ '<' :: '/' :: ("core".toList ++ ['>'] ++ ("\n    ".toList ++
        '<' :: '/' :: ("device".toList ++ ['>'] ++ ("\n  ".toList ++
          '<' :: '/' :: ("platform".toList ++ ['>'] ++ ("\n".toList ++
            '<' :: '/' :: ("project".toList ++ ['>'] ++ "\n".toList))))))) := rfl
  have joined : "\n  ".toList = "\n".toList ++ "  ".toList := rfl
  have attributes : attributesText s.coreAttributes =
      attributeText "name" "OCL_REGION_0" ++
        (attributeText "target" s.target ++ attributeText "type" "clc_region") := by
    rw [← attributesText_singleton, ← attributesText_singleton, ← attributesText_singleton,
      ← attributesText_append, ← attributesText_append]
    rfl
  unfold generatedChars
  rw [project, platform, core, kernels, ends]
  simp only [elementText, attributes, attributesText_singleton, joined, List.append_assoc,
    List.cons_append, List.nil_append]

/-! ### Reading the elements -/

/-- What a specification says can stand in a document: all its texts, and the positions of arguments
as words of 64 bits. -/
structure Printable (s : ImageSpec) : Prop where
  device : Xml.Printable s.device.toList
  target : Xml.Printable s.target.toList
  kernels : ∀ k ∈ s.kernels, Xml.Printable k.name.toList
  args : ∀ k ∈ s.kernels, ∀ a ∈ k.args, a.Printable
  words : ∀ k ∈ s.kernels, k.args.length ≤ 2 ^ 64

/-- What a specification says can be written so that it is read back: all its texts, and the
positions of arguments as words of 64 bits. -/
structure Legible (s : ImageSpec) : Prop where
  device : Writable s.device.toList
  target : Writable s.target.toList
  kernels : ∀ k ∈ s.kernels, Writable k.name.toList
  args : ∀ k ∈ s.kernels, ∀ a ∈ k.args, a.Legible
  words : ∀ k ∈ s.kernels, k.args.length ≤ 2 ^ 64

theorem normalized_eq_self_iff {s : ImageSpec} :
    s.normalized = s ↔ normalize s.device = s.device ∧ normalize s.target = s.target ∧
      ∀ k ∈ s.kernels, normalize k.name = k.name ∧ ∀ a ∈ k.args, a.normalized = a := by
  obtain ⟨device, kernels, mode, target, explicitIds, withManifest, manifestText, banks,
    connections⟩ := s
  simp only [normalized, mk.injEq, map_eq_self_iff, KernelSpec.normalized_eq_self_iff, true_and,
    and_true]
  tauto

/-- A specification is read back if and only if it can be written and reading changes none of its
texts. -/
theorem legible_iff {s : ImageSpec} : s.Legible ↔ s.Printable ∧ s.normalized = s := by
  rw [normalized_eq_self_iff]
  constructor
  · intro legible
    have kernel := fun k mem => writable_iff.1 (legible.kernels k mem)
    have arg := fun k mem a from_list => ArgSpec.legible_iff.1 (legible.args k mem a from_list)
    obtain ⟨device, device_eq⟩ := writable_iff.1 legible.device
    obtain ⟨target, target_eq⟩ := writable_iff.1 legible.target
    exact ⟨⟨device, target, fun k mem => (kernel k mem).1, fun k mem a from_list =>
        (arg k mem a from_list).1, legible.words⟩, device_eq, target_eq, fun k mem =>
      ⟨(kernel k mem).2, fun a from_list => (arg k mem a from_list).2⟩⟩
  · rintro ⟨printable, device_eq, target_eq, same⟩
    exact {
      device := writable_iff.2 ⟨printable.device, device_eq⟩
      target := writable_iff.2 ⟨printable.target, target_eq⟩
      kernels := fun k mem => writable_iff.2 ⟨printable.kernels k mem, (same k mem).1⟩
      args := fun k mem a from_list => ArgSpec.legible_iff.2
        ⟨printable.args k mem a from_list, (same k mem).2 a from_list⟩
      words := printable.words }

theorem writable_toString (n : Nat) : Writable (toString n).toList := by
  intro c mem
  have digit := Text.isDigit_of_mem_toString mem
  rw [Char.isDigit, Bool.and_eq_true, decide_eq_true_eq, decide_eq_true_eq] at digit
  have low : 48 ≤ c.toNat := digit.1
  have high : c.toNat ≤ 57 := digit.2
  have range : isChar c = true := by
    simp only [isChar, inRanges, List.any_cons, List.any_nil, Bool.or_eq_true, Bool.and_eq_true,
      decide_eq_true_eq]
    omega
  refine ⟨range, ?_, ?_, ?_⟩ <;>
  · rintro rfl
    contradiction

/-- Numbers and fixed words are read as they are written. -/
theorem normalizedAttributes_argumentAttributes (explicitIds : Bool) (position : Nat) (a : ArgSpec) :
    normalizedAttributes (argumentAttributes explicitIds position a) =
      argumentAttributes explicitIds position a.normalized := by
  have number : normalize position.repr = position.repr :=
    (writable_iff.1 (writable_toString position)).2
  obtain ⟨name, typeName, qualifier⟩ := a
  cases qualifier <;> cases explicitIds <;>
    simp [normalizedAttributes, argumentAttributes, ArgSpec.normalized, number]

/-- The names of the attributes of an argument. -/
def argumentNames (explicitIds qualified : Bool) : List String :=
  ["name"] ++ (if qualified then ["addressQualifier"] else []) ++
    (if explicitIds then ["id"] else []) ++ ["type"]

theorem names_argumentAttributes (explicitIds : Bool) (position : Nat) (a : ArgSpec) :
    (argumentAttributes explicitIds position a).map (·.1) =
      argumentNames explicitIds a.qualifier.isSome := by
  obtain ⟨name, typeName, qualifier⟩ := a
  cases qualifier <;> cases explicitIds <;> rfl

theorem proper_argumentAttributes (explicitIds : Bool) (position : Nat) (a : ArgSpec) :
    Proper (argumentAttributes explicitIds position a) := by
  have names := names_argumentAttributes explicitIds position a
  have apart : ∀ explicitIds qualified,
      (∀ name ∈ argumentNames explicitIds qualified, name ≠ declarator) ∧
        distinct (argumentNames explicitIds qualified) = true := by decide
  obtain ⟨undeclared, distinct⟩ := apart explicitIds a.qualifier.isSome
  exact ⟨names ▸ undeclared, names ▸ distinct⟩

theorem plainNames_argumentAttributes (explicitIds : Bool) (position : Nat) (a : ArgSpec) :
    PlainNames (argumentAttributes explicitIds position a) := by
  have plain : ∀ explicitIds qualified, ∀ name ∈ argumentNames explicitIds qualified,
      PlainName name := by decide
  rw [PlainNames, names_argumentAttributes]
  exact plain explicitIds a.qualifier.isSome

theorem content_argumentTexts (explicitIds : Bool) (position : Nat) (args : List ArgSpec) :
    Content (argumentTexts explicitIds position args)
      (argumentElements explicitIds position (args.map ArgSpec.normalized)) := by
  induction args generalizing position with
  | nil => exact .nil
  | cons a rest ih =>
    have tag : PlainTag "arg" (argumentAttributes explicitIds position a) :=
      ⟨by decide, plainNames_argumentAttributes explicitIds position a,
        proper_argumentAttributes explicitIds position a⟩
    have first : Content (emptyText "arg" (argumentAttributes explicitIds position a))
        [argumentElement explicitIds position a.normalized] := by
      rw [argumentElement, ← normalizedAttributes_argumentAttributes]
      exact .single_empty tag
    rw [argumentTexts, argumentText_eq]
    exact (first.between (by decide) (by decide)).append (ih (position + 1))

theorem content_kernelTexts (explicitIds : Bool) (ks : List KernelSpec) :
    Content (ks.flatMap (kernelText explicitIds))
      ((ks.map KernelSpec.normalized).map (kernelElement explicitIds)) := by
  induction ks with
  | nil => exact .nil
  | cons k rest ih =>
    have tag : PlainTag "kernel" (kernelAttributes k) := by
      refine ⟨by decide, ?_, ?_, ?_⟩
      · exact (by decide : ∀ name ∈ ["name", "language"], PlainName name)
      · exact (by decide : ∀ name ∈ ["name", "language"], name ≠ declarator)
      · exact (by decide : distinct ["name", "language"] = true)
    have inside : Content ("\n".toList ++ (argumentTexts explicitIds 0 k.args ++
        "        ".toList)) (argumentElements explicitIds 0 k.normalized.args) :=
      (content_argumentTexts explicitIds 0 k.args).between (by decide) (by decide)
    have first : Content _ [kernelElement explicitIds k.normalized] := .single_nested tag inside
    rw [List.flatMap_cons, kernelText_eq]
    exact (first.between (by decide) (by decide)).append ih

/-- The text behind the declaration consists of the element of the specification. -/
theorem content_project (s : ImageSpec) :
    Content (elementText "project" [("name", "frt")]
        ("\n  ".toList ++ (elementText "platform" [("vendor", "xilinx")]
          ("\n    ".toList ++ (elementText "device" [("name", s.device)]
            ("\n      ".toList ++ (elementText "core" s.coreAttributes
              ("\n".toList ++ (s.kernels.flatMap (kernelText s.explicitIds) ++ "      ".toList)) ++
              "\n    ".toList)) ++
            "\n  ".toList)) ++
          "\n".toList)))
      [s.normalized.projectElement] := by
  have core : PlainTag "core" s.coreAttributes := by
    refine ⟨by decide, ?_, ?_, ?_⟩
    · exact (by decide : ∀ name ∈ ["name", "target", "type"], PlainName name)
    · exact (by decide : ∀ name ∈ ["name", "target", "type"], name ≠ declarator)
    · exact (by decide : distinct ["name", "target", "type"] = true)
  have device : PlainTag "device" [("name", s.device)] := by
    refine ⟨by decide, ?_, ?_, ?_⟩
    · exact (by decide : ∀ name ∈ ["name"], PlainName name)
    · exact (by decide : ∀ name ∈ ["name"], name ≠ declarator)
    · exact (by decide : distinct ["name"] = true)
  have kernels : Content _ (s.normalized.kernels.map (kernelElement s.explicitIds)) :=
    content_kernelTexts s.explicitIds s.kernels
  -- project, platform, device, core
  refine .single_nested (by decide) (.between ?_ (by decide) (by decide))
  refine .single_nested (by decide) (.between ?_ (by decide) (by decide))
  refine .single_nested device (.between ?_ (by decide) (by decide))
  exact .single_nested core (kernels.between (by decide) (by decide))

/-! ### The document -/

theorem isChar_attributeText {name value : String} (plain : ∀ c ∈ name.toList, isChar c = true)
    (printable : Xml.Printable value.toList) : ∀ c ∈ attributeText name value, isChar c = true := by
  have first : isChar ' ' = true := by decide
  have equals : ∀ c ∈ ['=', '"'], isChar c = true := by decide
  have quote : ∀ c ∈ ['"'], isChar c = true := by decide
  unfold attributeText
  simp only [List.forall_mem_append]
  exact ⟨⟨⟨List.forall_mem_cons.2 ⟨first, plain⟩, equals⟩, printable.escape⟩, quote⟩

theorem isChar_argumentText {explicitIds : Bool} {position : Nat} {a : ArgSpec}
    (printable : a.Printable) :
    ∀ c ∈ argumentText explicitIds position a, isChar c = true := by
  have opens : ∀ c ∈ "          <arg".toList, isChar c = true := by decide
  have ends : ∀ c ∈ "/>\n".toList, isChar c = true := by decide
  have named := isChar_attributeText (by decide : ∀ c ∈ "name".toList, isChar c = true) printable.name
  have typed := isChar_attributeText (by decide : ∀ c ∈ "type".toList, isChar c = true)
    printable.typeName
  have numbered : ∀ c ∈ (if explicitIds then attributeText "id" (toString position) else []),
      isChar c = true := by
    cases explicitIds with
    | false => exact fun c mem => absurd mem List.not_mem_nil
    | true => exact isChar_attributeText (by decide) (writable_iff.1 (writable_toString position)).1
  unfold argumentText
  simp only [List.forall_mem_append]
  refine ⟨⟨⟨⟨⟨opens, named⟩, ?_⟩, numbered⟩, typed⟩, ends⟩
  cases found : a.qualifier with
  | none => exact fun c mem => absurd mem List.not_mem_nil
  | some q => exact isChar_attributeText (by decide) (printable.qualifier q found)

theorem isChar_argumentTexts {explicitIds : Bool} {args : List ArgSpec}
    (printable : ∀ a ∈ args, a.Printable) (position : Nat) :
    ∀ c ∈ argumentTexts explicitIds position args, isChar c = true := by
  induction args generalizing position with
  | nil => exact fun c mem => absurd mem List.not_mem_nil
  | cons a rest ih =>
    rw [argumentTexts, List.forall_mem_append]
    exact ⟨isChar_argumentText (printable a List.mem_cons_self),
      ih (fun b mem => printable b (List.mem_cons_of_mem a mem)) (position + 1)⟩

theorem isChar_kernelText {explicitIds : Bool} {k : KernelSpec} (name : Xml.Printable k.name.toList)
    (printable : ∀ a ∈ k.args, a.Printable) :
    ∀ c ∈ kernelText explicitIds k, isChar c = true := by
  have opens : ∀ c ∈ "        <kernel".toList, isChar c = true := by decide
  have middle : ∀ c ∈ " language=\"c\">\n".toList, isChar c = true := by decide
  have ends : ∀ c ∈ "        </kernel>\n".toList, isChar c = true := by decide
  have named := isChar_attributeText (by decide : ∀ c ∈ "name".toList, isChar c = true) name
  unfold kernelText
  simp only [List.forall_mem_append]
  exact ⟨⟨⟨⟨opens, named⟩, middle⟩, isChar_argumentTexts printable 0⟩, ends⟩

theorem isChar_generatedChars {s : ImageSpec} (printable : s.Printable) :
    ∀ c ∈ s.generatedChars, isChar c = true := by
  have project : ∀ c ∈ ("<?xml version=\"1.0\" encoding=\"UTF-8\"?>\n" ++
      "<project name=\"frt\">\n").toList, isChar c = true := by decide
  have platform : ∀ c ∈ "  <platform vendor=\"xilinx\">\n    <device".toList,
      isChar c = true := by decide
  have core : ∀ c ∈ ">\n      <core name=\"OCL_REGION_0\"".toList, isChar c = true := by decide
  have kernels : ∀ c ∈ " type=\"clc_region\">\n".toList, isChar c = true := by decide
  have ends : ∀ c ∈ "      </core>\n    </device>\n  </platform>\n</project>\n".toList,
      isChar c = true := by decide
  have device := isChar_attributeText (by decide : ∀ c ∈ "name".toList, isChar c = true)
    printable.device
  have target := isChar_attributeText (by decide : ∀ c ∈ "target".toList, isChar c = true)
    printable.target
  have texts : ∀ c ∈ s.kernels.flatMap (kernelText s.explicitIds), isChar c = true := by
    intro c mem
    obtain ⟨k, from_list, mem⟩ := List.mem_flatMap.1 mem
    exact isChar_kernelText (printable.kernels k from_list) (printable.args k from_list) c mem
  unfold generatedChars
  simp only [List.forall_mem_append]
  exact ⟨⟨⟨⟨⟨⟨⟨project, platform⟩, device⟩, core⟩, target⟩, kernels⟩, texts⟩, ends⟩

/-- What a specification writes is a document of one element, that of the specification as it is
read. -/
theorem isDocument_generatedChars {s : ImageSpec} (printable : s.Printable) :
    IsDocument s.generatedChars s.normalized.projectElement where
  content := by
    rw [generatedChars_eq]
    exact ⟨_, rfl, (content_project s).between (by decide) (by decide)⟩
  chars := isChar_generatedChars printable

end ImageSpec

end FpgaHost
