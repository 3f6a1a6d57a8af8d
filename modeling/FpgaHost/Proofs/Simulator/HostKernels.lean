import FpgaHost.Proofs.Simulator.Sizes

/-!
# What host kernels see and do

What the run of a host kernel means, said without the interpreter: `Interaction.Runs` relates an
interaction and the buffers it finds to its result and the buffers it leaves. A question about a
scalar is answered by the bytes that the argument is bound to, one about a buffer by the device
memory of the buffer that the argument is bound to, and neither by anything if there is no such
binding. What is written goes over the device memory of the bound buffer from its start on, as far
as the buffer goes, and touches nothing else.

Main statements: `Interaction.runs_run` (the interpreter does this) and `Interaction.Runs.unique`
(nothing else does).
-/

namespace FpgaHost

variable {args : Table Nat KernelArg} {buffers middle after : BufferTable} {handle : BufferHandle}
  {index : Nat} {b : Buffer} {data : Bytes} {α : Type}

/-! ### One question -/

/-- An argument is bound to a buffer that is there. -/
structure BoundTo (args : Table Nat KernelArg) (buffers : BufferTable) (index : Nat)
    (handle : BufferHandle) (b : Buffer) : Prop where
  /-- The argument is bound to the handle. -/
  bound : args.get? index = some (.buffer handle)
  /-- The buffer is there. -/
  found : buffers.get? handle = some b

theorem bufferAt_eq_some_iff :
    bufferAt args buffers index = some (handle, b) ↔ BoundTo args buffers index handle b := by
  rw [bufferAt]
  constructor
  · intro h
    split at h
    next other bound =>
      obtain ⟨c, found, same⟩ := Option.map_eq_some_iff.1 h
      cases same
      exact ⟨bound, found⟩
    · contradiction
  · rintro ⟨bound, found⟩
    rw [bound]
    dsimp only
    rw [found, Option.map_some]

theorem BoundTo.unique {other : BufferHandle} {c : Buffer}
    (h : BoundTo args buffers index handle b) (h' : BoundTo args buffers index other c) :
    handle = other ∧ b = c := by
  have same := bufferAt_eq_some_iff.2 h
  rw [bufferAt_eq_some_iff.2 h', Option.some.injEq, Prod.mk.injEq] at same
  exact ⟨same.1.symm, same.2.symm⟩

theorem scalarAt_eq_some_iff {bytes : Octets} :
    scalarAt args index = some bytes ↔ args.get? index = some (.scalar bytes) := by
  rw [scalarAt]
  split
  next other bound => simp [bound]
  next none => exact ⟨fun h => by contradiction, fun bound => (none bytes bound).elim⟩

/-- Data are written over the device memory of one buffer, as far as it goes. -/
structure Written (handle : BufferHandle) (data : Bytes) (b : Buffer)
    (before after : BufferTable) : Prop where
  /-- The first bytes are those of the data, the others stay, and so does everything else. -/
  here : ∃ c, after.get? handle = some c ∧ c.allocation = b.allocation ∧ c.host = b.host ∧
    c.device.toList = data.toList.take b.allocation.size ++ b.device.toList.drop data.size
  /-- No other buffer is touched. -/
  elsewhere : ∀ j, j ≠ handle → after.get? j = before.get? j

theorem written_modify (sized : b.Sized) (found : buffers.get? handle = some b) (data : Bytes) :
    Written handle data b buffers (buffers.modify handle (·.write data)) where
  here := by
    refine ⟨b.write data, ?_, rfl, rfl, ?_⟩
    · rw [Table.get?_modify_self, found, Option.map_some]
    · rw [Buffer.write, Bytes.toList_overwrite, sized.device]
      simp
  elsewhere j ne := Table.get?_modify_of_ne buffers ne.symm _

theorem Written.unique {other : BufferTable} (h : Written handle data b buffers after)
    (h' : Written handle data b buffers other) : after = other := by
  refine Table.ext_get? fun j => ?_
  by_cases same : j = handle
  · obtain ⟨c, found, allocation, host, device⟩ := h.here
    obtain ⟨c', found', allocation', host', device'⟩ := h'.here
    obtain rfl : c = c' := by
      cases c
      cases c'
      dsimp only at allocation host device allocation' host' device'
      rw [← device'] at device
      rw [allocation, allocation', host, host', Bytes.ext_toList device]
    rw [same, found, found']
  · rw [h.elsewhere j same, h'.elsewhere j same]

/-! ### Whole runs -/

namespace Interaction

/-- An interaction on bound arguments ends with a result and leaves buffers. -/
inductive Runs (args : Table Nat KernelArg) :
    Interaction α → BufferTable → α → BufferTable → Prop
  /-- It is over. -/
  | done (a : α) (buffers : BufferTable) : Runs args (.done a) buffers a buffers
  /-- It is told the bytes that an argument is bound to. -/
  | scalar {index : Nat} {next : Option Octets → Interaction α} {answer : Option Octets}
      {buffers after : BufferTable} {a : α}
      (told : ∀ bytes, answer = some bytes ↔ args.get? index = some (.scalar bytes))
      (rest : Runs args (next answer) buffers a after) :
      Runs args (.scalar index next) buffers a after
  /-- It is told the device memory of the buffer that an argument is bound to. -/
  | read {index : Nat} {next : Option Bytes → Interaction α} {answer : Option Bytes}
      {buffers after : BufferTable} {a : α}
      (told : ∀ data, answer = some data ↔
        ∃ handle b, BoundTo args buffers index handle b ∧ b.device = data)
      (rest : Runs args (next answer) buffers a after) :
      Runs args (.read index next) buffers a after
  /-- It writes over the buffer that an argument is bound to. -/
  | written {index : Nat} {data : Bytes} {next : Bool → Interaction α} {handle : BufferHandle}
      {b : Buffer} {buffers middle after : BufferTable} {a : α}
      (bound : BoundTo args buffers index handle b)
      (written : Written handle data b buffers middle)
      (rest : Runs args (next true) middle a after) :
      Runs args (.write index data next) buffers a after
  /-- There is no buffer to write over. -/
  | unbound {index : Nat} {data : Bytes} {next : Bool → Interaction α}
      {buffers after : BufferTable} {a : α}
      (free : ∀ handle b, ¬ BoundTo args buffers index handle b)
      (rest : Runs args (next false) buffers a after) :
      Runs args (.write index data next) buffers a after

/-- This is what the interpreter does, as long as every buffer has its size. -/
theorem runs_run (args : Table Nat KernelArg) (program : Interaction α)
    (sized : BufferTable.Sized buffers) :
    program.Runs args buffers (program.run args buffers).1 (program.run args buffers).2 := by
  induction program generalizing buffers with
  | done a => exact .done a buffers
  | scalar index next ih => exact .scalar (fun _ => scalarAt_eq_some_iff) (ih _ sized)
  | read index next ih =>
    refine .read (fun data => ?_) (ih _ sized)
    rw [Option.map_eq_some_iff]
    constructor
    · rintro ⟨⟨handle, b⟩, found, device⟩
      exact ⟨handle, b, bufferAt_eq_some_iff.1 found, device⟩
    · rintro ⟨handle, b, bound, device⟩
      exact ⟨(handle, b), bufferAt_eq_some_iff.2 bound, device⟩
  | write index data next ih =>
    -- Here the sizes matter: the interpreter clips by the device memory, the relation by the size.
    rw [run]
    cases at_index : bufferAt args buffers index with
    | none =>
      refine .unbound (fun handle b bound => ?_) (ih false sized)
      rw [bufferAt_eq_some_iff.2 bound] at at_index
      contradiction
    | some found =>
      obtain ⟨handle, b⟩ := found
      have bound := bufferAt_eq_some_iff.1 at_index
      have there := sized handle b bound.found
      exact .written bound (written_modify there bound.found data)
        (ih true (sized.modify handle fun c h => h.write data))

/-- An interaction has one result and leaves one table of buffers. -/
theorem Runs.unique {program : Interaction α} {a a' : α} {after' : BufferTable}
    (h : program.Runs args buffers a after) (h' : program.Runs args buffers a' after') :
    a = a' ∧ after = after' := by
  induction h with
  | done a buffers =>
    cases h'
    exact ⟨rfl, rfl⟩
  | scalar told rest ih =>
    cases h' with
    | scalar told' rest' =>
      obtain rfl := Option.ext fun bytes => (told bytes).trans (told' bytes).symm
      exact ih rest'
  | read told rest ih =>
    cases h' with
    | read told' rest' =>
      obtain rfl := Option.ext fun data => (told data).trans (told' data).symm
      exact ih rest'
  | written bound written rest ih =>
    cases h' with
    | written bound' written' rest' =>
      obtain ⟨rfl, rfl⟩ := bound.unique bound'
      obtain rfl := written.unique written'
      exact ih rest'
    | unbound free rest' => exact absurd bound (free _ _)
  | unbound free rest ih =>
    cases h' with
    | written bound written' rest' => exact absurd bound (free _ _)
    | unbound free' rest' => exact ih rest'

end Interaction

end FpgaHost
