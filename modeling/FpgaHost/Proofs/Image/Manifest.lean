import FpgaHost.Image.Manifest
import FpgaHost.Proofs.Outcome
import FpgaHost.Proofs.Table

/-!
# What a manifest leaves open

What is true of arguments as they are declared is true of all arguments of a manifest
(`forall_of_read`): none has a memory bank yet (`unplaced_of_read`), and each lies at its own
index (`indexed_of_read`). Zero bytes behind the text of a manifest do not matter
(`readWith_append_zero`). All this holds whatever reads the text as a document.
-/

namespace FpgaHost.Manifest

open Xml (Element)

/-! ### One step at a time -/

theorem addArguments_cons (kernel : String) (first position : Nat) (e : Element)
    (rest : List Element) (args : ArgumentTable) :
    addArguments kernel first position (e :: rest) args = (do
      let a ← argument first e position
      if args.contains a.index then .error (.duplicateIndex a.index kernel)
      else addArguments kernel first (position + 1) rest (args.insert a.index a)) := by
  rw [addArguments]
  refine bind_congr fun a => ?_
  cases args.contains a.index <;> rfl

theorem ofElement_eq (project : Element) :
    ofElement project =
      if project.tag ≠ "project" then .error (.wrongRoot project.tag)
      else (do
        let platform ← requiredChild project "platform"
        let device ← requiredChild platform "device"
        let core ← requiredChild device "core"
        let (kernels, args) ← addKernels (core.childrenTagged "kernel") [] .empty
        if kernels.isEmpty then .error .noKernel
        else .ok { target := core.attribute? "target", kernels, args }) := by
  rw [ofElement]
  by_cases root : project.tag = "project"
  · simp only [root, ne_eq, not_true_eq_false, if_false]
    refine bind_congr fun platform => bind_congr fun device => bind_congr fun core =>
      bind_congr fun ⟨kernels, args⟩ => ?_
    cases kernels <;> rfl
  · simp only [root, ne_eq, not_false_eq_true, if_true]
    rfl

/-! ### Entry by entry -/

/-- What is true of arguments as they are declared. -/
def OfDeclared (P : Nat × Argument → Prop) : Prop :=
  ∀ {first position : Nat} {e : Element} {a : Argument},
    argument first e position = .ok a → P (a.index, a)

section

variable {P : Nat × Argument → Prop} (declared : OfDeclared P)
include declared

theorem forall_of_addArguments {kernel : String} {first position : Nat} {es : List Element}
    {args result : ArgumentTable} (h : addArguments kernel first position es args = .ok result)
    (before : ∀ e ∈ args.entries, P e) : ∀ e ∈ result.entries, P e := by
  induction es generalizing position args with
  | nil =>
    obtain rfl := Except.ok.inj h
    exact before
  | cons e rest ih =>
    rw [addArguments_cons] at h
    obtain ⟨a, read, h⟩ := bind_eq_ok_iff.1 h
    split at h
    · contradiction
    · refine ih h fun entry mem => ?_
      rcases Table.mem_entries_insert mem with rfl | mem
      · exact declared read
      · exact before entry mem

theorem forall_of_addKernels {es : List Element} {kernels : List KernelDecl} {args : ArgumentTable}
    {result : List KernelDecl × ArgumentTable} (h : addKernels es kernels args = .ok result)
    (before : ∀ e ∈ args.entries, P e) : ∀ e ∈ result.2.entries, P e := by
  induction es generalizing kernels args with
  | nil =>
    obtain rfl := Except.ok.inj h
    exact before
  | cons e rest ih =>
    obtain ⟨name, -, h⟩ := bind_eq_ok_iff.1 h
    obtain ⟨more, added, h⟩ := bind_eq_ok_iff.1 h
    exact ih h (forall_of_addArguments declared added before)

end

section

variable {reader : Xml.Reader} {payload : Bytes} {m : Manifest}

/-- A manifest that is read has kernels, and all that it declares comes from them. -/
theorem declared_of_read (h : readWith reader payload = .ok m) :
    m.kernels ≠ [] ∧ ∃ es, addKernels es [] .empty = .ok (m.kernels, m.args) := by
  obtain ⟨project, -, h⟩ := bind_eq_ok_iff.1 h
  rw [ofElement_eq] at h
  split at h
  · contradiction
  · obtain ⟨platform, -, h⟩ := bind_eq_ok_iff.1 h
    obtain ⟨device, -, h⟩ := bind_eq_ok_iff.1 h
    obtain ⟨core, -, h⟩ := bind_eq_ok_iff.1 h
    obtain ⟨⟨kernels, args⟩, added, h⟩ := bind_eq_ok_iff.1 h
    simp only at h
    split at h
    · contradiction
    next some =>
      obtain rfl := Except.ok.inj h
      exact ⟨fun none => some (List.isEmpty_iff.2 none), _, added⟩

/-- What is true of arguments as they are declared is true of all arguments of a manifest. -/
theorem forall_of_read {P : Nat × Argument → Prop} (declared : OfDeclared P)
    (h : readWith reader payload = .ok m) : ∀ e ∈ m.args.entries, P e := by
  obtain ⟨-, es, added⟩ := declared_of_read h
  exact forall_of_addKernels declared added fun entry mem => absurd mem List.not_mem_nil

/-! ### What every manifest is like -/

/-- No argument of a table has a bank. -/
def Unplaced (args : ArgumentTable) : Prop := ∀ e ∈ args.entries, e.2.bankTag = none

/-- Every argument of a table lies at its own index. -/
def Indexed (args : ArgumentTable) : Prop := ∀ e ∈ args.entries, e.2.index = e.1

theorem Indexed.indices {args : ArgumentTable} (indexed : Indexed args) :
    args.values.map (·.index) = args.keys := by
  rw [Table.values, Table.keys, List.map_map]
  exact List.map_congr_left indexed

theorem bankTag_of_argument {first position : Nat} {e : Element} {a : Argument}
    (h : argument first e position = .ok a) : a.bankTag = none := by
  obtain ⟨name, -, h⟩ := bind_eq_ok_iff.1 h
  obtain ⟨typeName, -, h⟩ := bind_eq_ok_iff.1 h
  obtain ⟨offset, -, h⟩ := bind_eq_ok_iff.1 h
  rw [← Except.ok.inj h]

theorem unplaced_of_read (h : readWith reader payload = .ok m) : Unplaced m.args :=
  forall_of_read (fun h => bankTag_of_argument h) h

theorem indexed_of_read (h : readWith reader payload = .ok m) : Indexed m.args :=
  forall_of_read (fun _ => rfl) h

end

/-! ### Zero bytes at the end -/

theorem withoutTrailingZeros_ofList {text : Octets} (noZero : 0 ∉ text) :
    (Bytes.ofList text).withoutTrailingZeros = .ofList text := by
  refine Bytes.ext_toList ?_
  rw [Bytes.toList_withoutTrailingZeros, Bytes.toList_ofList]
  cases last : text.reverse with
  | nil => rw [← List.reverse_reverse text, last]; rfl
  | cons b rest =>
    have mem : b ∈ text := List.mem_reverse.1 (last ▸ List.mem_cons_self)
    rw [List.dropWhile_cons_of_neg (by simpa using fun zero : b = 0 => noZero (zero ▸ mem)), ← last,
      List.reverse_reverse]

theorem readWith_append_zero (reader : Xml.Reader) (text : Octets) :
    readWith reader (.ofList (text ++ [0])) = readWith reader (.ofList text) := by
  have same : (Bytes.ofList (text ++ [0])).withoutTrailingZeros =
      (Bytes.ofList text).withoutTrailingZeros := by
    refine Bytes.ext_toList ?_
    simp only [Bytes.toList_withoutTrailingZeros, Bytes.toList_ofList, List.reverse_append]
    rfl
  rw [readWith, documentIn, same]
  rfl

end FpgaHost.Manifest
