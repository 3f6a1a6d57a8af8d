import FpgaHost.Proofs.Table
import FpgaHost.Simulator.Calls

/-!
# Sizes of buffers

Both memories of a buffer have the size that it was allocated with. This holds of a new buffer,
since host data that are too short are refused and longer ones are cut, and whatever is done to a
buffer keeps it: writes end where the buffer does, and a migration copies a memory as a whole.
-/

namespace FpgaHost

/-- Both memories of a buffer have the size that it was allocated with. -/
structure Buffer.Sized (b : Buffer) : Prop where
  /-- The host memory. -/
  host : b.host.size = b.allocation.size
  /-- The device memory. -/
  device : b.device.size = b.allocation.size

namespace Buffer.Sized

variable {b : Buffer}

theorem write (sized : b.Sized) (data : Bytes) : (b.write data).Sized :=
  ⟨sized.host, (Bytes.size_overwrite b.device 0 data).trans sized.device⟩

theorem overwriteHost (sized : b.Sized) (offset : Nat) (data : Bytes) :
    Sized { b with host := b.host.overwrite offset data } :=
  ⟨(Bytes.size_overwrite b.host offset data).trans sized.host, sized.device⟩

theorem migrate (sized : b.Sized) (direction : Direction) : (b.migrate direction).Sized := by
  cases direction with
  | toDevice => exact ⟨sized.host, sized.host⟩
  | toHost => exact ⟨sized.device, sized.device⟩

end Buffer.Sized

/-- A new buffer has the size it was asked for, if the host data are long enough. -/
theorem Simulator.sized_newBuffer (allocation : Allocation) {host : Option Bytes}
    (long : host.any (·.size < allocation.size) = false) : (newBuffer allocation host).Sized := by
  refine ⟨?_, Bytes.size_zeros allocation.size⟩
  cases host with
  | none => exact Bytes.size_zeros allocation.size
  | some data =>
    have enough : allocation.size ≤ data.size := by simpa using long
    rw [newBuffer, Option.map_some, Option.getD_some, Bytes.size_take, Nat.min_eq_left enough]

/-! ### Tables of buffers -/

namespace BufferTable

/-- Every buffer has its size. -/
def Sized (t : BufferTable) : Prop := ∀ handle b, t.get? handle = some b → b.Sized

variable {t : BufferTable}

theorem sized_empty : Sized .empty := by
  intro handle b found
  contradiction

theorem Sized.insert (sized : Sized t) (handle : BufferHandle) {b : Buffer} (h : b.Sized) :
    Sized (t.insert handle b) := by
  intro j c found
  rw [Table.get?_insert] at found
  split at found
  · obtain rfl := Option.some.inj found
    exact h
  · exact sized j c found

theorem Sized.erase (sized : Sized t) (handle : BufferHandle) : Sized (t.erase handle) := by
  intro j c found
  rw [Table.get?_erase] at found
  split at found
  · contradiction
  · exact sized j c found

theorem Sized.modify (sized : Sized t) (handle : BufferHandle) {f : Buffer → Buffer}
    (keeps : ∀ b : Buffer, b.Sized → (f b).Sized) : Sized (t.modify handle f) := by
  intro j c found
  rw [Table.get?_modify] at found
  split at found
  · obtain ⟨b, there, rfl⟩ := Option.map_eq_some_iff.1 found
    exact keeps b (sized j b there)
  · exact sized j c found

/-- A host kernel keeps the sizes of all buffers. -/
theorem Sized.run {α : Type} (args : Table Nat KernelArg) (program : Interaction α)
    (sized : Sized t) : Sized (program.run args t).2 := by
  induction program generalizing t with
  | done a => exact sized
  | scalar index next ih => exact ih _ sized
  | read index next ih => exact ih _ sized
  | write index data next ih =>
    rw [Interaction.run]
    cases bufferAt args t index with
    | none => exact ih false sized
    | some bound => exact ih true (sized.modify bound.1 fun b h => h.write data)

end BufferTable

end FpgaHost
