import FpgaHost.Proofs.Image.Declared
import FpgaHost.Word
import Mathlib.Algebra.GroupWithZero.Nat
import Mathlib.Data.List.Nodup
import Mathlib.Data.List.Perm.Basic

/-!
# How arguments are numbered

The kernels of a manifest share one sequence of indices. Each kernel begins after the highest index
that is in use so far, wherever the arguments before it have left gaps, and adds to this the offset
of each of its arguments: its identifier or, without one, its position. So the arguments of a kernel
lie from its first index on and before the first index of every later kernel, however many there are
and in whatever order, and only two arguments of one kernel can meet.

Indices are words. An identifier may be any word, so that there need not be a word for a sum or for
the index after the highest one; how arguments are numbered is said for manifests in which there
always is (`InWords`).

Main statements: `laid_of_addKernels`, by which a manifest that is read is laid out kernel by kernel
(`Laid`), and `numbering_exact`.
-/

namespace FpgaHost

/-! ### The end of a table -/

/-- A new entry stands beside those that are there. -/
theorem Table.entries_insert_perm {κ α : Type} [Key κ] {t : Table κ α} {k : κ} (v : α)
    (absent : t.contains k = false) : (t.insert k v).entries.Perm ((k, v) :: t.entries) := by
  have none := contains_eq_false_iff.1 absent
  have new : (k, v) ∉ t.entries := by
    rw [mem_entries_iff, none]
    exact nofun
  refine (List.perm_ext_iff_of_nodup (nodup_entries _)
    (List.nodup_cons.2 ⟨new, nodup_entries _⟩)).2 fun ⟨j, w⟩ => ?_
  rw [mem_entries_iff, get?_insert, List.mem_cons, mem_entries_iff, Prod.mk.injEq]
  by_cases same : Key.rank k = Key.rank j
  · obtain rfl := Key.eq_of_rank_eq same
    simp [none, eq_comm]
  · have ne : j ≠ k := by
      rintro rfl
      exact same rfl
    simp [same, ne]

/-- One past the highest of some numbers; zero if there are none. -/
def pastLast (indices : List Nat) : Nat := (indices.map (· + 1)).foldr max 0

section

variable {indices more : List Nat} {n i : Nat}

theorem pastLast_cons (i : Nat) (indices : List Nat) :
    pastLast (i :: indices) = max (i + 1) (pastLast indices) := rfl

theorem lt_pastLast (mem : i ∈ indices) : i < pastLast indices := by
  induction indices with
  | nil => contradiction
  | cons j rest ih =>
    rw [pastLast_cons]
    rcases List.mem_cons.1 mem with rfl | mem
    · omega
    · have later := ih mem
      omega

theorem pastLast_le (below : ∀ i ∈ indices, i < n) : pastLast indices ≤ n := by
  induction indices with
  | nil => exact Nat.zero_le n
  | cons j rest ih =>
    have first := below j List.mem_cons_self
    have later := ih fun i mem => below i (List.mem_cons_of_mem j mem)
    rw [pastLast_cons]
    omega

theorem pastLast_append (indices more : List Nat) :
    pastLast (indices ++ more) = max (pastLast indices) (pastLast more) := by
  induction indices with
  | nil => exact (Nat.zero_max _).symm
  | cons i rest ih => rw [List.cons_append, pastLast_cons, pastLast_cons, ih, Nat.max_assoc]

theorem pastLast_perm (perm : indices.Perm more) : pastLast indices = pastLast more :=
  Nat.le_antisymm (pastLast_le fun _ mem => lt_pastLast (perm.subset mem))
    (pastLast_le fun _ mem => lt_pastLast (perm.symm.subset mem))

end

/-- The next index of a table is one past the highest in use. -/
theorem ArgumentTable.nextIndex_eq (t : ArgumentTable) : t.nextIndex = pastLast t.keys := by
  rw [nextIndex, Table.lastKey?]
  have ordered : t.keys.Pairwise (· < ·) := List.pairwise_map.2 t.ordered
  rcases List.eq_nil_or_concat t.keys with none | ⟨front, last, keys⟩
  · rw [none]
    rfl
  · rw [List.concat_eq_append] at keys
    rw [keys, List.pairwise_append] at ordered
    rw [keys, List.getLast?_concat, pastLast_append]
    have below : pastLast front ≤ last :=
      pastLast_le fun i mem => ordered.2.2 i mem last List.mem_cons_self
    change last + 1 = max _ (max (last + 1) 0)
    omega

namespace Manifest

open Xml (Element)

/-! ### Offsets -/

/-- The offset of an argument at a position: its identifier, or the position without one. With an
identifier that is no number a manifest is not read. -/
def offset (e : Element) (position : Nat) : Nat :=
  match e.attribute? "id" with
  | none => position
  | some id => (Text.word64? (Text.trim id)).getD 0

/-- The offsets of arguments, the first of them at a position. -/
def offsetsFrom (position : Nat) (es : List Element) : List Nat :=
  (es.zipIdx position).map fun e => offset e.1 e.2

theorem offsetsFrom_cons (position : Nat) (e : Element) (rest : List Element) :
    offsetsFrom position (e :: rest) = offset e position :: offsetsFrom (position + 1) rest := rfl

/-- The offsets of the arguments of a kernel, in order. -/
def offsets (kernel : Element) : List Nat := offsetsFrom 0 (kernel.childrenTagged "arg")

/-- The indices of kernels are words, the first of them numbered from an index: the one from which a
kernel is numbered, and those of its arguments. -/
def NumberedInWords : (first : Nat) → List Element → Prop
  | _, [] => True
  | first, e :: rest =>
    IsWord first ∧ (∀ n ∈ offsets e, IsWord (first + n)) ∧
      NumberedInWords (max first (pastLast ((offsets e).map (first + ·)))) rest

instance NumberedInWords.decidable : (first : Nat) → (es : List Element) →
    Decidable (NumberedInWords first es)
  | _, [] => inferInstanceAs (Decidable True)
  | first, e :: rest =>
    have := decidable (max first (pastLast ((offsets e).map (first + ·)))) rest
    inferInstanceAs (Decidable (IsWord first ∧ (∀ n ∈ offsets e, IsWord (first + n)) ∧
      NumberedInWords _ rest))


/-! ### The arguments of one kernel -/

/-- The arguments that elements declare, the first of them at a position. -/
def argumentsOf (first position : Nat) (es : List Element) :
    Except ManifestError (List Argument) :=
  (es.zipIdx position).mapM fun e => argument first e.1 e.2

theorem argumentsOf_cons (first position : Nat) (e : Element) (rest : List Element) :
    argumentsOf first position (e :: rest) = (do
      let a ← argument first e position
      let more ← argumentsOf first (position + 1) rest
      .ok (a :: more)) := by
  rw [argumentsOf, List.zipIdx_cons, List.mapM_cons]
  rfl

theorem length_of_argumentsOf {first position : Nat} {es : List Element} {block : List Argument}
    (declared : argumentsOf first position es = .ok block) : block.length = es.length := by
  induction es generalizing position block with
  | nil =>
    cases declared
    rfl
  | cons e rest ih =>
    rw [argumentsOf_cons] at declared
    obtain ⟨a, -, declared⟩ := bind_eq_ok_iff.1 declared
    obtain ⟨more, later, same⟩ := bind_eq_ok_iff.1 declared
    cases same
    rw [List.length_cons, ih later, List.length_cons]

/-- An argument is numbered by its offset. -/
theorem index_of_argument {first position : Nat} {e : Element} {a : Argument}
    (declared : argument first e position = .ok a) : a.index = first + offset e position := by
  obtain ⟨name, -, declared⟩ := bind_eq_ok_iff.1 declared
  obtain ⟨typeName, -, declared⟩ := bind_eq_ok_iff.1 declared
  obtain ⟨n, placed, declared⟩ := bind_eq_ok_iff.1 declared
  have same : n = offset e position := by
    rw [argumentOffset] at placed
    rw [offset]
    cases found : e.attribute? "id" with
    | none =>
      rw [found] at placed
      exact (Except.ok.inj placed).symm
    | some id =>
      rw [found] at placed
      dsimp only at placed ⊢
      cases number : Text.word64? (Text.trim id) with
      | none =>
        rw [number] at placed
        contradiction
      | some m =>
        rw [number] at placed
        exact (Except.ok.inj placed).symm
  rw [← Except.ok.inj declared, same]

theorem indices_of_argumentsOf {first position : Nat} {es : List Element} {block : List Argument}
    (declared : argumentsOf first position es = .ok block) :
    block.map (·.index) = (offsetsFrom position es).map (first + ·) := by
  induction es generalizing position block with
  | nil =>
    cases declared
    rfl
  | cons e rest ih =>
    rw [argumentsOf_cons] at declared
    obtain ⟨a, here, declared⟩ := bind_eq_ok_iff.1 declared
    obtain ⟨more, later, same⟩ := bind_eq_ok_iff.1 declared
    cases same
    rw [List.map_cons, index_of_argument here, ih later, offsetsFrom_cons, List.map_cons]

/-- No argument is numbered before the first index of its kernel. -/
theorem le_of_argumentsOf {first position : Nat} {es : List Element} {block : List Argument}
    (declared : argumentsOf first position es = .ok block) : ∀ a ∈ block, first ≤ a.index := by
  intro a mem
  have there : a.index ∈ (offsetsFrom position es).map (first + ·) :=
    indices_of_argumentsOf declared ▸ List.mem_map.2 ⟨a, mem, rfl⟩
  obtain ⟨n, -, same⟩ := List.mem_map.1 there
  omega

/-- Arguments that can be added to a table: their indices are distinct and not in use. -/
structure Fresh (args : ArgumentTable) (block : List Argument) : Prop where
  /-- No two have the same index. -/
  distinct : (block.map (·.index)).Nodup
  /-- None has an index in use. -/
  absent : ∀ a ∈ block, args.contains a.index = false

theorem fresh_cons_iff {args : ArgumentTable} {a : Argument} {block : List Argument} :
    Fresh args (a :: block) ↔
      args.contains a.index = false ∧ Fresh (args.insert a.index a) block := by
  have others : (∀ b ∈ block, (args.insert a.index a).contains b.index = false) ↔
      a.index ∉ block.map (·.index) ∧ ∀ b ∈ block, args.contains b.index = false := by
    simp only [← Bool.not_eq_true, Table.contains_insert, not_or, List.mem_map, not_exists, not_and]
    exact ⟨fun h => ⟨fun b mem => (h b mem).1, fun b mem => (h b mem).2⟩,
      fun h b mem => ⟨h.1 b mem, h.2 b mem⟩⟩
  constructor
  · rintro ⟨distinct, absent⟩
    rw [List.map_cons, List.nodup_cons] at distinct
    obtain ⟨here, there⟩ := List.forall_mem_cons.1 absent
    exact ⟨here, distinct.2, others.2 ⟨distinct.1, there⟩⟩
  · rintro ⟨here, distinct, absent⟩
    obtain ⟨new, there⟩ := others.1 absent
    exact ⟨List.nodup_cons.2 ⟨new, distinct⟩, List.forall_mem_cons.2 ⟨here, there⟩⟩

/-- The entries of arguments, each at its own index. -/
def entriesOf (block : List Argument) : List (Nat × Argument) := block.map fun a => (a.index, a)

theorem entriesOf_append (block more : List Argument) :
    entriesOf (block ++ more) = entriesOf block ++ entriesOf more := List.map_append

/-- Arguments that were added to a table are those declared, and could be added. -/
theorem argumentsOf_of_addArguments {kernel : String} {first position : Nat} {es : List Element}
    {args result : ArgumentTable} (added : addArguments kernel first position es args = .ok result) :
    ∃ block, argumentsOf first position es = .ok block ∧ Fresh args block ∧
      result.entries.Perm (args.entries ++ entriesOf block) := by
  induction es generalizing position args with
  | nil =>
    cases added
    refine ⟨[], rfl, ⟨List.nodup_nil, fun a mem => absurd mem List.not_mem_nil⟩, ?_⟩
    rw [entriesOf, List.map_nil, List.append_nil]
  | cons e rest ih =>
    rw [addArguments_cons] at added
    obtain ⟨a, declared, added⟩ := bind_eq_ok_iff.1 added
    split at added
    · contradiction
    next absent =>
      rw [Bool.not_eq_true] at absent
      obtain ⟨block, later, fresh, entries⟩ := ih added
      refine ⟨a :: block, ?_, fresh_cons_iff.2 ⟨absent, fresh⟩, ?_⟩
      · rw [argumentsOf_cons, declared, ok_bind, later, ok_bind]
      · refine entries.trans (((Table.entries_insert_perm a absent).append_right _).trans ?_)
        exact List.perm_middle.symm

/-- Arguments that are declared are added, unless two of them meet or one is in the way already. -/
theorem addArguments_of_argumentsOf (kernel : String) {first position : Nat} {es : List Element}
    {block : List Argument} (args : ArgumentTable)
    (declared : argumentsOf first position es = .ok block) :
    (Fresh args block ∧ ∃ result, addArguments kernel first position es args = .ok result) ∨
      ¬ Fresh args block ∧
        ∃ index, addArguments kernel first position es args = .error (.duplicateIndex index kernel) := by
  induction es generalizing position args block with
  | nil =>
    cases declared
    exact .inl ⟨⟨List.nodup_nil, fun a mem => absurd mem List.not_mem_nil⟩, args, rfl⟩
  | cons e rest ih =>
    rw [argumentsOf_cons] at declared
    obtain ⟨a, here, declared⟩ := bind_eq_ok_iff.1 declared
    obtain ⟨more, later, same⟩ := bind_eq_ok_iff.1 declared
    cases same
    rw [addArguments_cons, here, ok_bind, fresh_cons_iff]
    cases present : args.contains a.index with
    | true => exact .inr ⟨fun fresh => Bool.noConfusion fresh.1, a.index, rfl⟩
    | false =>
      rcases ih (args.insert a.index a) later with ⟨fresh, added⟩ | ⟨stale, failed⟩
      · exact .inl ⟨⟨rfl, fresh⟩, added⟩
      · exact .inr ⟨fun fresh => stale fresh.2, failed⟩

/-! ### Kernel by kernel -/

/-- An element declares a kernel, and these are its arguments. -/
structure Declares (e : Element) (k : KernelDecl) (block : List Argument) : Prop where
  /-- It has the name of the kernel. -/
  named : required e "name" = .ok k.name
  /-- Its arguments are numbered from the first index of the kernel. -/
  arguments : argumentsOf k.firstArg 0 (e.childrenTagged "arg") = .ok block
  /-- The kernel has as many. -/
  counted : k.argCount = block.length

/-- Elements declare kernels, the first of them numbered from an index. Each of the others is
numbered from the index after the highest one before it. -/
inductive Laid : Nat → List Element → List (KernelDecl × List Argument) → Prop
  /-- There are no more. -/
  | nil (first : Nat) : Laid first [] []
  /-- One kernel, and then the others. -/
  | cons {e : Element} {k : KernelDecl} {block : List Argument} {es : List Element}
      {decls : List (KernelDecl × List Argument)} (declares : Declares e k block)
      (rest : Laid (max k.firstArg (pastLast (block.map (·.index)))) es decls) :
      Laid k.firstArg (e :: es) ((k, block) :: decls)

/-- The arguments of some kernels. -/
def argumentsIn (decls : List (KernelDecl × List Argument)) : List Argument := decls.flatMap (·.2)

/-- An argument lies from the first index of a kernel on, and before that of every later one. -/
def within (k : KernelDecl) (later : List (KernelDecl × List Argument)) (a : Argument) : Bool :=
  decide (k.firstArg ≤ a.index) && later.all fun l => decide (a.index < l.1.firstArg)

theorem argumentsIn_cons (k : KernelDecl) (block : List Argument)
    (decls : List (KernelDecl × List Argument)) :
    argumentsIn ((k, block) :: decls) = block ++ argumentsIn decls := List.flatMap_cons

/-- Kernels that were added are laid out after what was there, and their arguments are added. -/
theorem laid_of_addKernels {es : List Element} {done : List KernelDecl} {args : ArgumentTable}
    {result : List KernelDecl × ArgumentTable} (added : addKernels es done args = .ok result) :
    ∃ decls, Laid args.nextIndex es decls ∧ result.1 = done.reverse ++ decls.map (·.1) ∧
      result.2.entries.Perm (args.entries ++ entriesOf (argumentsIn decls)) := by
  induction es generalizing done args with
  | nil =>
    cases added
    refine ⟨[], .nil _, (List.append_nil _).symm, ?_⟩
    exact List.Perm.of_eq (List.append_nil _).symm
  | cons e rest ih =>
    obtain ⟨name, named, added⟩ := bind_eq_ok_iff.1 added
    obtain ⟨more, here, added⟩ := bind_eq_ok_iff.1 added
    obtain ⟨block, declared, -, entries⟩ := argumentsOf_of_addArguments here
    obtain ⟨decls, laid, kernels, all⟩ := ih added
    have next : more.nextIndex = max args.nextIndex (pastLast (block.map (·.index))) := by
      have keys : more.keys.Perm (args.keys ++ block.map (·.index)) := by
        have firsts := entries.map (·.1)
        rwa [List.map_append, entriesOf, List.map_map] at firsts
      rw [ArgumentTable.nextIndex_eq, pastLast_perm keys, pastLast_append,
        ArgumentTable.nextIndex_eq]
    rw [next] at laid
    have declares : Declares e ⟨name, args.nextIndex, (e.childrenTagged "arg").length⟩ block :=
      ⟨named, declared, (length_of_argumentsOf declared).symm⟩
    refine ⟨(⟨name, args.nextIndex, (e.childrenTagged "arg").length⟩, block) :: decls,
      .cons declares laid, ?_, ?_⟩
    · rw [kernels, List.reverse_cons, List.append_assoc]
      rfl
    · refine all.trans ((entries.append_right _).trans (List.Perm.of_eq ?_))
      rw [List.append_assoc, argumentsIn_cons, entriesOf_append]

namespace Laid

variable {first : Nat} {es : List Element} {decls before later : List (KernelDecl × List Argument)}
  {k : KernelDecl} {block : List Argument}

/-- Every kernel is declared by its element. -/
theorem declares (laid : Laid first es decls) :
    List.Forall₂ (fun e d => Declares e d.1 d.2) es decls := by
  induction laid with
  | nil first => exact .nil
  | cons declares rest ih => exact .cons declares ih

/-- There are as many arguments as the kernels count. -/
theorem length_argumentsIn (laid : Laid first es decls) :
    (argumentsIn decls).length = (decls.map (·.1.argCount)).sum := by
  induction laid with
  | nil first => rfl
  | cons declares rest ih =>
    rw [argumentsIn_cons, List.length_append, ih, ← declares.counted, List.map_cons, List.sum_cons]

/-- A kernel is numbered from the first index, or from the one after the highest before it. -/
theorem firstArg_eq (laid : Laid first es (before ++ (k, block) :: later)) :
    k.firstArg = max first (pastLast ((argumentsIn before).map (·.index))) := by
  generalize split : before ++ (k, block) :: later = decls at laid
  induction laid generalizing before with
  | nil first => simp at split
  | @cons e l mine es decls declares rest ih =>
    cases before with
    | nil =>
      cases split
      exact (Nat.max_zero _).symm
    | cons d before =>
      obtain ⟨rfl, same⟩ := List.cons.inj split
      rw [ih same, argumentsIn, argumentsIn, List.flatMap_cons, List.map_append, pastLast_append,
        Nat.max_assoc]

/-- Its arguments lie from there on. -/
theorem le_index (laid : Laid first es decls) :
    ∀ d ∈ decls, first ≤ d.1.firstArg ∧ ∀ a ∈ d.2, d.1.firstArg ≤ a.index := by
  induction laid with
  | nil first => exact fun d mem => absurd mem List.not_mem_nil
  | cons declares rest ih =>
    intro d mem
    rcases List.mem_cons.1 mem with rfl | mem
    · exact ⟨Nat.le_refl _, le_of_argumentsOf declares.arguments⟩
    · obtain ⟨after, mine⟩ := ih d mem
      exact ⟨Nat.le_trans (Nat.le_max_left _ _) after, mine⟩

/-- If the indices are words by the offsets, then those of the kernels and of all arguments are. -/
theorem isWord (laid : Laid first es decls) (words : NumberedInWords first es) :
    ∀ d ∈ decls, IsWord d.1.firstArg ∧ ∀ a ∈ d.2, IsWord a.index := by
  induction laid with
  | nil first => exact fun d mem => absurd mem List.not_mem_nil
  | @cons e k block es decls declares rest ih =>
    obtain ⟨here, mine, theirs⟩ := words
    have indices : block.map (·.index) = (offsets e).map (k.firstArg + ·) :=
      indices_of_argumentsOf declares.arguments
    rw [← indices] at theirs
    refine List.forall_mem_cons.2 ⟨⟨here, fun a mem => ?_⟩, ih theirs⟩
    have there : a.index ∈ (offsets e).map (k.firstArg + ·) :=
      indices ▸ List.mem_map.2 ⟨a, mem, rfl⟩
    obtain ⟨n, from_offset, same⟩ := List.mem_map.1 there
    exact same ▸ mine n from_offset

/-- The arguments of a kernel lie before the first index of every later one. -/
theorem pairwise (laid : Laid first es decls) :
    decls.Pairwise fun d l => ∀ a ∈ d.2, a.index < l.1.firstArg := by
  induction laid with
  | nil first => exact .nil
  | @cons e k block es decls declares rest ih =>
    refine List.pairwise_cons.2 ⟨fun l mem a mine => ?_, ih⟩
    have after := (rest.le_index l mem).1
    have below : a.index < pastLast (block.map (·.index)) :=
      lt_pastLast (List.mem_map.2 ⟨a, mine, rfl⟩)
    show a.index < l.1.firstArg
    omega

/-- Of all arguments those of a kernel are told by its first index and those of the later ones. -/
theorem filter_eq (laid : Laid first es (before ++ (k, block) :: later)) :
    (argumentsIn (before ++ (k, block) :: later)).filter (within k later) = block := by
  have starts := laid.le_index
  have apart := laid.pairwise
  rw [List.pairwise_append, List.pairwise_cons] at apart
  obtain ⟨-, ⟨mine, -⟩, theirs⟩ := apart
  have front : (argumentsIn before).filter (within k later) = [] := by
    refine List.filter_eq_nil_iff.2 fun a mem => ?_
    obtain ⟨d, there, mem⟩ := List.mem_flatMap.1 mem
    have below : a.index < k.firstArg := theirs d there (k, block) List.mem_cons_self a mem
    simp [within, Nat.not_le.2 below]
  have own : block.filter (within k later) = block := by
    refine List.filter_eq_self.2 fun a mem => ?_
    have above := (starts (k, block) (by simp)).2 a mem
    simpa [within, above] using fun l args there => mine (l, args) there a mem
  have back : (argumentsIn later).filter (within k later) = [] := by
    refine List.filter_eq_nil_iff.2 fun a mem => ?_
    obtain ⟨d, there, mem⟩ := List.mem_flatMap.1 mem
    have above := (starts d (by simp [there])).2 a mem
    have outside : later.all (fun l => decide (a.index < l.1.firstArg)) = false :=
      List.all_eq_false.2 ⟨d, there, by simpa using above⟩
    simp [within, outside]
  have parts : argumentsIn (before ++ (k, block) :: later) =
      argumentsIn before ++ (block ++ argumentsIn later) := by
    rw [argumentsIn, List.flatMap_append, List.flatMap_cons]
    rfl
  rw [parts, List.filter_append, List.filter_append, front, own, back, List.nil_append,
    List.append_nil]

end Laid

/-! ### The manifest -/

section

variable (reader : Xml.Reader) (payload : Bytes)

/-- The element with the kernels of the manifest in a payload. -/
def coreOf : Except ManifestError Element := do
  let project ← documentIn reader payload
  if project.tag ≠ "project" then .error (.wrongRoot project.tag)
  else
    let platform ← requiredChild project "platform"
    let device ← requiredChild platform "device"
    requiredChild device "core"

/-- The manifest that the element with the kernels says. -/
def ofCore (core : Element) : Except ManifestError Manifest := do
  let (kernels, args) ← addKernels (core.childrenTagged "kernel") [] .empty
  if kernels.isEmpty then .error .noKernel
  else .ok { target := core.attribute? "target", kernels, args }

/-- A manifest is read by finding this element first. -/
theorem readWith_eq : readWith reader payload = coreOf reader payload >>= ofCore := by
  rw [readWith, coreOf, bind_assoc]
  refine bind_congr fun project => ?_
  rw [ofElement_eq]
  split
  · rfl
  · simp only [bind_assoc]
    rfl

/-- All indices that the kernels of a manifest use are words. -/
def InWords : Prop :=
  ∀ core, coreOf reader payload = .ok core → NumberedInWords 0 (core.childrenTagged "kernel")

end

/-- How the arguments of a manifest lie in its table, kernel by kernel. -/
structure Numbering (m : Manifest) (es : List Element) (decls : List (KernelDecl × List Argument)) :
    Prop where
  /-- These are its kernels, in order. -/
  kernels : decls.map (·.1) = m.kernels
  /-- There is one at least. -/
  some : m.kernels ≠ []
  /-- They are declared by these elements, with these arguments. -/
  declares : List.Forall₂ (fun e d => Declares e d.1 d.2) es decls
  /-- Every entry of the table lies at its own index. -/
  indexed : Indexed m.args
  /-- There are as many as all kernels have arguments. -/
  size : m.args.size = (m.kernels.map (·.argCount)).sum
  /-- A kernel is numbered from the index after the highest one of those before it. -/
  firstArg : ∀ before k block later, decls = before ++ (k, block) :: later →
    k.firstArg = pastLast ((argumentsIn before).map (·.index))
  /-- Its arguments are those from there on and before the first index of every later kernel. -/
  own : ∀ before k block later, decls = before ++ (k, block) :: later →
    (m.args.values.filter (within k later)).Perm block
  /-- So no two arguments of different kernels meet. -/
  apart : decls.Pairwise fun d l => ∀ a ∈ d.2, ∀ b ∈ l.2, a.index < b.index
  /-- The index from which a kernel is numbered is a word. -/
  firstWords : ∀ k ∈ m.kernels, IsWord k.firstArg
  /-- So is every index in the table. -/
  words : ∀ i ∈ m.args.keys, IsWord i

section

variable {reader : Xml.Reader} {payload : Bytes} {m : Manifest}

theorem numbering_of_read (words : InWords reader payload)
    (read : readWith reader payload = .ok m) :
    ∃ core decls, coreOf reader payload = .ok core ∧
      Numbering m (core.childrenTagged "kernel") decls := by
  have indexed := indexed_of_read read
  rw [readWith_eq] at read
  obtain ⟨core, found, read⟩ := bind_eq_ok_iff.1 read
  obtain ⟨⟨kernels, args⟩, added, read⟩ := bind_eq_ok_iff.1 read
  dsimp only at read
  split at read
  · contradiction
  next some =>
    obtain rfl := Except.ok.inj read
    obtain ⟨decls, laid, same, entries⟩ := laid_of_addKernels added
    have values : args.values.Perm (argumentsIn decls) := by
      have seconds := entries.map (·.2)
      rwa [List.map_append, entriesOf, List.map_map, Function.comp_def, List.map_id'] at seconds
    have size : args.size = (kernels.map (·.argCount)).sum := by
      have length := values.length_eq
      rw [Table.values, List.length_map, laid.length_argumentsIn] at length
      rw [Table.size, length, show kernels = decls.map (·.1) from same, List.map_map]
      rfl
    have wide := laid.isWord (words core found)
    refine ⟨core, decls, found, same.symm, fun none => some (List.isEmpty_iff.2 none),
      laid.declares, indexed, size, ?_, ?_, ?_, ?_, ?_⟩
    · rintro before k block later rfl
      rw [laid.firstArg_eq]
      exact Nat.zero_max _
    · rintro before k block later rfl
      exact (values.filter _).trans (List.Perm.of_eq laid.filter_eq)
    · refine laid.pairwise.imp_of_mem fun _ there below a mine b its => ?_
      exact Nat.lt_of_lt_of_le (below a mine) ((laid.le_index _ there).2 b its)
    · intro k mem
      rw [show kernels = decls.map (·.1) from same] at mem
      obtain ⟨d, there, rfl⟩ := List.mem_map.1 mem
      exact (wide d there).1
    · intro i mem
      rw [← indexed.indices] at mem
      obtain ⟨a, listed, rfl⟩ := List.mem_map.1 mem
      obtain ⟨d, there, mine⟩ := List.mem_flatMap.1 (values.subset listed)
      exact (wide d there).2 a mine

end

/-! ### Arguments that meet -/

/-- An element declares an argument, with a name, a type, and a number if it has an identifier. -/
structure Complete (e : Element) : Prop where
  /-- It has a name. -/
  name : (e.attribute? "name").isSome
  /-- It has a type. -/
  type : (e.attribute? "type").isSome
  /-- Its identifier is a number. -/
  id : ∀ id, e.attribute? "id" = some id → (Text.word64? (Text.trim id)).isSome

/-- Whatever else than arguments that meet could be wrong with the kernels of a manifest is
right. -/
structure Acceptable (core : Element) : Prop where
  /-- There is a kernel. -/
  some : core.childrenTagged "kernel" ≠ []
  /-- Every kernel has a name. -/
  named : ∀ e ∈ core.childrenTagged "kernel", (e.attribute? "name").isSome
  /-- All its arguments are complete. -/
  complete : ∀ e ∈ core.childrenTagged "kernel", ∀ a ∈ e.childrenTagged "arg", Complete a

theorem required_of_isSome {e : Element} {name : String} (there : (e.attribute? name).isSome) :
    ∃ value, required e name = .ok value := by
  obtain ⟨value, found⟩ := Option.isSome_iff_exists.1 there
  exact ⟨value, by rw [required, found]⟩

theorem argument_of_complete {e : Element} (complete : Complete e) (first position : Nat) :
    ∃ a, argument first e position = .ok a := by
  obtain ⟨name, named⟩ := required_of_isSome complete.name
  obtain ⟨typeName, typed⟩ := required_of_isSome complete.type
  have placed : ∃ n, argumentOffset e name position = .ok n := by
    rw [argumentOffset]
    cases found : e.attribute? "id" with
    | none => exact ⟨position, rfl⟩
    | some id =>
      obtain ⟨n, number⟩ := Option.isSome_iff_exists.1 (complete.id id found)
      exact ⟨n, by simp only [number]⟩
  obtain ⟨n, placed⟩ := placed
  refine ⟨{
    index := first + n
    name, typeName
    category := argumentCategory (e.attribute? "addressQualifier") }, ?_⟩
  rw [argument, named, ok_bind, typed, ok_bind, placed, ok_bind]
  rfl

theorem argumentsOf_of_complete {es : List Element} (complete : ∀ e ∈ es, Complete e)
    (first position : Nat) : ∃ block, argumentsOf first position es = .ok block := by
  induction es generalizing position with
  | nil => exact ⟨[], rfl⟩
  | cons e rest ih =>
    obtain ⟨here, there⟩ := List.forall_mem_cons.1 complete
    obtain ⟨a, declared⟩ := argument_of_complete here first position
    obtain ⟨block, later⟩ := ih there (position + 1)
    exact ⟨a :: block, by rw [argumentsOf_cons, declared, ok_bind, later, ok_bind]⟩

/-- After all that is in use, arguments can only be in the way of one another. -/
theorem fresh_iff {args : ArgumentTable} {block : List Argument} {kernel : Element}
    (indices : block.map (·.index) = (offsets kernel).map (args.nextIndex + ·)) :
    Fresh args block ↔ (offsets kernel).Nodup := by
  have injective : Function.Injective (args.nextIndex + ·) := fun a b same => Nat.add_left_cancel same
  have distinct : (block.map (·.index)).Nodup ↔ (offsets kernel).Nodup := by
    rw [indices, List.nodup_map_iff injective]
  refine ⟨fun fresh => distinct.1 fresh.distinct, fun nodup => ⟨distinct.2 nodup, fun a mem => ?_⟩⟩
  have above : args.nextIndex ≤ a.index := by
    have there : a.index ∈ (offsets kernel).map (args.nextIndex + ·) :=
      indices ▸ List.mem_map.2 ⟨a, mem, rfl⟩
    obtain ⟨n, -, same⟩ := List.mem_map.1 there
    omega
  rw [← Bool.not_eq_true, ← Table.mem_keys_iff]
  intro used
  have below := lt_pastLast used
  rw [← ArgumentTable.nextIndex_eq] at below
  omega

/-- Kernels with complete arguments are added, unless two arguments of one of them have the same
offset. -/
theorem addKernels_of_complete {es : List Element}
    (named : ∀ e ∈ es, (e.attribute? "name").isSome)
    (complete : ∀ e ∈ es, ∀ a ∈ e.childrenTagged "arg", Complete a) (done : List KernelDecl)
    (args : ArgumentTable) :
    (∀ e ∈ es, (offsets e).Nodup) ∧ (∃ result, addKernels es done args = .ok result) ∨
      (∃ e ∈ es, ¬ (offsets e).Nodup) ∧
        ∃ index kernel, addKernels es done args = .error (.duplicateIndex index kernel) := by
  induction es generalizing done args with
  | nil => exact .inl ⟨fun e mem => absurd mem List.not_mem_nil, _, rfl⟩
  | cons e rest ih =>
    obtain ⟨here, there⟩ := List.forall_mem_cons.1 named
    obtain ⟨mine, theirs⟩ := List.forall_mem_cons.1 complete
    obtain ⟨name, called⟩ := required_of_isSome here
    obtain ⟨block, declared⟩ := argumentsOf_of_complete mine args.nextIndex 0
    have fresh : Fresh args block ↔ (offsets e).Nodup := fresh_iff (indices_of_argumentsOf declared)
    rw [addKernels, called, ok_bind]
    dsimp only
    rcases addArguments_of_argumentsOf name args declared with
      ⟨new, more, added⟩ | ⟨stale, index, failed⟩
    · rw [added, ok_bind]
      rcases ih there theirs (⟨name, args.nextIndex, (e.childrenTagged "arg").length⟩ :: done) more with
        ⟨nodup, all⟩ | ⟨⟨k, mem, meet⟩, failed⟩
      · exact .inl ⟨List.forall_mem_cons.2 ⟨fresh.1 new, nodup⟩, all⟩
      · exact .inr ⟨⟨k, List.mem_cons_of_mem e mem, meet⟩, failed⟩
    · refine .inr ⟨⟨e, List.mem_cons_self, fun nodup => stale (fresh.2 nodup)⟩, index, name, ?_⟩
      rw [failed, error_bind]

/-- A manifest whose kernels are acceptable is read, unless two arguments of one kernel have the
same offset. -/
theorem read_of_acceptable {reader : Xml.Reader} {payload : Bytes} {core : Element}
    (found : coreOf reader payload = .ok core) (acceptable : Acceptable core) :
    (∀ e ∈ core.childrenTagged "kernel", (offsets e).Nodup) ∧
        (∃ m, readWith reader payload = .ok m) ∨
      (∃ e ∈ core.childrenTagged "kernel", ¬ (offsets e).Nodup) ∧
        ∃ index kernel, readWith reader payload = .error (.duplicateIndex index kernel) := by
  rw [readWith_eq, found, ok_bind, ofCore]
  rcases addKernels_of_complete acceptable.named acceptable.complete [] .empty with
    ⟨nodup, ⟨kernels, args⟩, added⟩ | ⟨meet, index, kernel, failed⟩
  · refine .inl ⟨nodup, ?_⟩
    obtain ⟨decls, laid, same, -⟩ := laid_of_addKernels added
    have some : kernels ≠ [] := by
      intro none
      have length := laid.declares.length_eq
      rw [show kernels = decls.map (·.1) from same, List.map_eq_nil_iff] at none
      rw [none, List.length_nil, List.length_eq_zero_iff] at length
      exact acceptable.some length
    rw [added, ok_bind]
    simp [some]
  · refine .inr ⟨meet, index, kernel, ?_⟩
    rw [failed, error_bind]

/-- In every manifest that is read arguments are numbered kernel by kernel: there is a kernel, every
entry lies at its own index, a kernel is numbered from the index after the highest one before it,
and its arguments are exactly those from there on and before the first index of every later kernel.
If all else is right with the kernels of a manifest, an index is used twice exactly if two arguments
of one kernel have the same offset. This holds whatever reads the document, as long as the indices
are words. -/
theorem numbering_exact (reader : Xml.Reader) (payload : Bytes) (words : InWords reader payload) :
    (∀ m, readWith reader payload = .ok m → ∃ core decls, coreOf reader payload = .ok core ∧
      Numbering m (core.childrenTagged "kernel") decls) ∧
    ∀ core, coreOf reader payload = .ok core → Acceptable core →
      ((∃ index kernel, readWith reader payload = .error (.duplicateIndex index kernel)) ↔
        ∃ e ∈ core.childrenTagged "kernel", ¬ (offsets e).Nodup) ∧
      ((∃ m, readWith reader payload = .ok m) ↔
        ∀ e ∈ core.childrenTagged "kernel", (offsets e).Nodup) := by
  refine ⟨fun m read => numbering_of_read words read, fun core found acceptable => ?_⟩
  rcases read_of_acceptable found acceptable with ⟨nodup, m, read⟩ | ⟨meet, index, kernel, failed⟩
  · refine ⟨iff_of_false ?_ ?_, iff_of_true ⟨m, read⟩ nodup⟩
    · rw [read]
      rintro ⟨index, kernel, ⟨⟩⟩
    · rintro ⟨e, mem, meet⟩
      exact meet (nodup e mem)
  · refine ⟨iff_of_true ⟨index, kernel, failed⟩ meet, iff_of_false ?_ ?_⟩
    · rw [failed]
      rintro ⟨m, ⟨⟩⟩
    · intro nodup
      obtain ⟨e, mem, meet⟩ := meet
      exact meet (nodup e mem)

/-- The document of a specification has the kernels of the specification. -/
theorem coreOf_document {reader : Xml.Reader} {s : ImageSpec} (faithful : reader.Faithful)
    (generated : s.manifestText = none) (printable : s.Printable) :
    coreOf reader (.ofList (Utf8.encode s.document)) = .ok s.normalized.coreElement := by
  rw [coreOf, ImageSpec.documentIn_printed faithful generated printable]
  rfl

theorem numbering_exact_marked :
    let payload : Bytes := .ofList (Utf8.encode ImageSpec.marked.document)
    InWords Xml.parse? payload ∧ ∃ m core decls, read payload = .ok m ∧
      coreOf Xml.parse? payload = .ok core ∧ Numbering m (core.childrenTagged "kernel") decls ∧
      m.kernels.map (·.firstArg) = [0, 2] ∧ m.args.keys = [0, 1, 2] := by
  have legible := ImageSpec.legible_marked
  have found := coreOf_document Xml.faithful_parse? (s := ImageSpec.marked) rfl
    (ImageSpec.legible_iff.1 legible).1
  have words : InWords Xml.parse? (.ofList (Utf8.encode ImageSpec.marked.document)) := by
    intro core same
    obtain rfl := Except.ok.inj (found.symm.trans same)
    decide +kernel
  have answer : read (.ofList (Utf8.encode ImageSpec.marked.document)) =
      .ok ImageSpec.marked.manifest :=
    (ImageSpec.readWith_document Xml.faithful_parse? rfl legible).trans (if_neg (by decide))
  obtain ⟨core, decls, same, numbering⟩ := (numbering_exact Xml.parse? _ words).1 _ answer
  exact ⟨words, _, core, decls, answer, same, numbering, rfl, rfl⟩

/-- An identifier leaves a gap before it, and the next kernel begins after it. -/
example :
    let element (tag : String) (attributes : List (String × String)) (es : List Element) : Element :=
      .mk ⟨none, tag⟩ (attributes.map fun a => ⟨⟨none, a.1⟩, a.2⟩) es
    let core := element "core" [] [
      element "kernel" [("name", "k")] [
        element "arg" [("name", "a"), ("type", "int"), ("id", "3")] [],
        element "arg" [("name", "b"), ("type", "int")] []],
      element "kernel" [("name", "l")] [element "arg" [("name", "c"), ("type", "int")] []]]
    (ofCore core).toOption.map (fun m => (m.kernels.map (·.firstArg), m.args.keys)) =
      some ([0, 4], [1, 3, 4]) := by
  decide +kernel

end Manifest

end FpgaHost
