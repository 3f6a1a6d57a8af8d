import FpgaHost.Proofs.Session.Managers
import FpgaHost.Proofs.Simulator.Contexts

/-!
# What the device is told of a buffer

A request for a buffer becomes an allocation: the manager adds the flags of the access and of the
host memory, and the bank of the argument decides whether an extended pointer goes with it and what
it says. On the simulator such a request fails only if it does not fit its host data. Otherwise
there is a new buffer, allocated and filled as the request and the argument have it, and the
placement that the manager records is the one that the device was told (`Directs`).

Main statement: `BufferManager.create_directed`.
-/

namespace FpgaHost

open Steps Attempt

/-! ### Flags -/

namespace MemFlags

variable {a b c : MemFlags}

theorem contains_or_self : (a ||| b).contains b = true := by
  have bits : (a ||| b).bits &&& b.bits = b.bits := by
    apply UInt64.toBitVec_inj.1
    show (a.bits.toBitVec ||| b.bits.toBitVec) &&& b.bits.toBitVec = b.bits.toBitVec
    ext i
    rw [BitVec.getElem_and, BitVec.getElem_or]
    cases b.bits.toBitVec[i]
    · exact Bool.and_false _
    · rw [Bool.or_true, Bool.and_true]
  rw [contains, bits, beq_self_eq_true]

/-- Flags that have nothing in common with some others make no difference to whether these are
there. -/
theorem contains_or_of_disjoint (disjoint : b.bits &&& c.bits = 0) :
    (a ||| b).contains c = a.contains c := by
  have distributes : (a ||| b).bits &&& c.bits = a.bits &&& c.bits ||| b.bits &&& c.bits := by
    apply UInt64.toBitVec_inj.1
    exact BitVec.and_or_distrib_right
  rw [contains, distributes, disjoint, UInt64.or_zero, contains]

end MemFlags

/-! ### Placements -/

/-- The bank tag of an argument, if there is such an argument and it has one. -/
def ArgumentTable.tag? (args : ArgumentTable) (index : Nat) : Option String :=
  (args.get? index).bind (·.bankTag)

/-- How a buffer for an argument is placed, and the extended pointer that tells the device so. -/
inductive Directs (attached : Bool) : Option Argument → BufferPlacement → Option ExtPtr → Prop
  /-- In the bank of the argument. -/
  | bank {a : Argument} {tag : String} {flag : UInt32} (tagged : a.bankTag = some tag)
      (recognised : Placement.placementFlag? tag = some flag) :
      Directs attached (some a) (.bank tag flag) (some ⟨flag, attached⟩)
  /-- By default, for a bank that has no flag. -/
  | unrecognized {a : Argument} {tag : String} (tagged : a.bankTag = some tag)
      (unknown : Placement.placementFlag? tag = none) :
      Directs attached (some a) (.unrecognized tag) (some ⟨0, attached⟩)
  /-- By default, without a bank. -/
  | byDefault {a : Argument} (untagged : a.bankTag = none) :
      Directs attached (some a) .byDefault none
  /-- By default, without an argument. -/
  | unplaced : Directs attached none .unplaced none

namespace BufferPlacement

theorem tag?_ofArgument (argument : Option Argument) :
    (ofArgument argument).tag? = argument.bind (·.bankTag) := by
  cases argument with
  | none => rfl
  | some a =>
    rw [ofArgument, Option.bind_some]
    cases a.bankTag with
    | none => rfl
    | some tag =>
      dsimp only
      cases Placement.placementFlag? tag <;> rfl

theorem directive?_ofArgument (argument : Option Argument) (attached : Bool) :
    (ofArgument argument).directive? attached =
      (argument.bind (·.bankTag)).map fun tag => ⟨(Placement.placementFlag? tag).getD 0, attached⟩ := by
  cases argument with
  | none => rfl
  | some a =>
    rw [ofArgument, Option.bind_some]
    cases a.bankTag with
    | none => rfl
    | some tag =>
      dsimp only
      cases known : Placement.placementFlag? tag <;> simp [directive?, tag?, flag?, known]

theorem directs_ofArgument (argument : Option Argument) (attached : Bool) :
    Directs attached argument (ofArgument argument) ((ofArgument argument).directive? attached) := by
  cases argument with
  | none => exact .unplaced
  | some a =>
    cases tagged : a.bankTag with
    | none =>
      rw [ofArgument, tagged]
      exact .byDefault tagged
    | some tag =>
      cases known : Placement.placementFlag? tag with
      | none =>
        simp only [ofArgument, tagged, known]
        exact .unrecognized tagged known
      | some flag =>
        simp only [ofArgument, tagged, known]
        exact .bank tagged known

end BufferPlacement

/-! ### Allocations -/

/-- A request for a buffer of no bytes, or of more than its host data has. -/
def BufferRequest.Unfit (request : BufferRequest) : Prop :=
  request.size = 0 ∨ ∃ data, request.host = some data ∧ data.size < request.size

namespace BufferManager

/-- A buffer is allocated as it was requested for an argument, and recorded so. -/
structure Directed (m : BufferManager) (args : ArgumentTable) (request : BufferRequest)
    (made : Buffer) (known : ManagedBuffer) : Prop where
  /-- The flags are those of the request, with the bit of the access, that of host memory which is
  used in place if the manager forces this, and that of an extended pointer if the argument has a
  bank. -/
  flags : made.allocation.flags.bits = request.flags.bits |||
    (match request.access with
      | .readWrite => 0x1
      | .writeOnly => 0x2
      | .readOnly => 0x4) |||
    (if m.forceHostPointer then 0x8 else 0) |||
    (if (args.tag? request.index).isSome then 0x80000000 else 0)
  /-- The extended pointer is announced exactly if the argument has a bank. -/
  announced : made.allocation.flags.contains .extPtr = (args.tag? request.index).isSome
  /-- The extended pointer has the flag of the bank, or zero if there is none, and tells whether
  there is host data. -/
  pointer : made.allocation.ext = (args.tag? request.index).map fun tag =>
    { flags := (Placement.placementFlag? tag).getD 0, hostAttached := request.host.isSome }
  /-- The size is the one of the request. -/
  size : made.allocation.size = request.size
  /-- The host memory holds the first bytes of the host data, or zeros. -/
  host : made.host.toList = match request.host with
    | some data => data.toList.take request.size
    | none => List.replicate request.size 0
  /-- The device memory holds zeros. -/
  device : made.device.toList = List.replicate request.size 0
  /-- The recorded placement is the one that the device was told. -/
  placed : Directs request.host.isSome (args.get? request.index) known.placement
    made.allocation.ext
  /-- The recorded size and access are those of the request. -/
  recorded : known.size = request.size ∧ known.access = request.access

variable {m : BufferManager} {s : Simulator} {context : ContextHandle} {args : ArgumentTable}
  {request : BufferRequest}

/-- The flags of an allocation, bit by bit. -/
theorem bits_allocationFlags (placement : BufferPlacement) :
    (m.allocationFlags request placement).bits = request.flags.bits |||
      (match request.access with
        | .readWrite => 0x1
        | .writeOnly => 0x2
        | .readOnly => 0x4) |||
      (if m.forceHostPointer then 0x8 else 0) |||
      (if placement.tag?.isSome then 0x80000000 else 0) := by
  rw [allocationFlags, MemFlags.bits_or, MemFlags.bits_or, MemFlags.bits_or, Access.bits_flags,
    apply_ite MemFlags.bits, apply_ite MemFlags.bits]
  rfl

/-- The extended pointer is announced by the placement only. -/
theorem contains_allocationFlags (plain : request.flags.contains .extPtr = false)
    (placement : BufferPlacement) :
    (m.allocationFlags request placement).contains .extPtr = placement.tag?.isSome := by
  have access : request.access.flags.bits &&& MemFlags.extPtr.bits = 0 := by
    cases request.access <;> decide
  have place : (if m.forceHostPointer then MemFlags.useHostPtr else .none).bits &&&
      MemFlags.extPtr.bits = 0 := by
    cases m.forceHostPointer <;> decide
  rw [allocationFlags]
  cases placement.tag? with
  | none =>
    have nothing : MemFlags.none.bits &&& MemFlags.extPtr.bits = 0 := by decide
    show (_ ||| MemFlags.none).contains .extPtr = false
    rw [MemFlags.contains_or_of_disjoint nothing, MemFlags.contains_or_of_disjoint place,
      MemFlags.contains_or_of_disjoint access, plain]
  | some tag => exact MemFlags.contains_or_self

/-- The buffer that the simulator makes for a request. -/
abbrev made (m : BufferManager) (args : ArgumentTable) (request : BufferRequest) : Buffer :=
  let placement := BufferPlacement.ofArgument (args.get? request.index)
  Simulator.newBuffer
    ⟨m.allocationFlags request placement, placement.directive? request.host.isSome, request.size⟩
    request.host

theorem directed_made (plain : request.flags.contains .extPtr = false) (handle : BufferHandle) :
    m.Directed args request (m.made args request) (allotted args request handle) where
  flags := by
    rw [ArgumentTable.tag?, ← BufferPlacement.tag?_ofArgument]
    exact bits_allocationFlags _
  announced := by
    rw [ArgumentTable.tag?, ← BufferPlacement.tag?_ofArgument]
    exact contains_allocationFlags plain _
  pointer := BufferPlacement.directive?_ofArgument _ _
  size := rfl
  host := by
    rw [made, Simulator.newBuffer]
    cases request.host with
    | none => exact Bytes.toList_zeros _
    | some data => exact Bytes.toList_take data _
  device := Bytes.toList_zeros _
  placed := BufferPlacement.directs_ofArgument _ _
  recorded := ⟨rfl, rfl⟩

theorem unfit_iff : request.Unfit ↔
    (request.size == 0) = true ∨ request.host.any (·.size < request.size) = true := by
  rw [BufferRequest.Unfit, beq_iff_eq, Option.any_eq_true]
  simp only [decide_eq_true_eq]

/-- The simulator refuses to allocate what does not fit. -/
theorem call_allocation_of_unfit (unfit : request.Unfit) :
    ComputeApi.call (m.allocation context args request) s = .error .invalidValue s := by
  simp only [ComputeApi.call, Simulator.createBuffer_eq]
  obtain nothing | short := unfit_iff.1 unfit
  · rw [nothing]
    split <;> rfl
  · rw [short]
    split
    · rfl
    · split <;> rfl

theorem call_allocation_of_fit (live : s.contexts.contains context = true)
    (fit : ¬ request.Unfit) :
    ∃ t, ComputeApi.call (m.allocation context args request) s = .ok ⟨s.nextId⟩ t ∧
      t.buffers = s.buffers.insert ⟨s.nextId⟩ (m.made args request) := by
  rw [unfit_iff, not_or, Bool.not_eq_true, Bool.not_eq_true] at fit
  simp only [ComputeApi.call, Simulator.createBuffer_eq, live, fit.1, fit.2]
  exact ⟨_, rfl, rfl⟩

/-- A buffer that fits is made, and the one that it replaces is given back. -/
theorem create_of_fit (reachable : s.Reachable)
    (alive : ∀ index b, m.buffers.get? index = some b → s.buffers.contains b.handle = true)
    (live : s.contexts.contains context = true) (fit : ¬ request.Unfit) :
    ∃ t, create context args request (m, s) =
        .ok ⟨s.nextId⟩ (m.install request.index (allotted args request ⟨s.nextId⟩), t) ∧
      t.buffers.get? ⟨s.nextId⟩ = some (m.made args request) := by
  obtain ⟨t, granted, buffers⟩ : ∃ t,
      ComputeApi.call (m.allocation context args request) s = .ok ⟨s.nextId⟩ t ∧
      t.buffers = s.buffers.insert ⟨s.nextId⟩ (m.made args request) :=
    call_allocation_of_fit live fit
  rw [create_of_granted granted]
  dsimp only
  cases had : m.buffers.get? request.index with
  | none => exact ⟨t, rfl, by rw [buffers, Table.get?_insert_self]⟩
  | some old =>
    have there := alive request.index old had
    have other : (⟨s.nextId⟩ : BufferHandle) ≠ old.handle := by
      rintro same
      rw [← same, reachable.numbered.buffers.absent] at there
      contradiction
    obtain ⟨b, found⟩ := Table.contains_iff.1 there
    have still : t.buffers.get? old.handle = some b := by
      rw [buffers, Table.get?_insert_of_ne _ other, found]
    simp only [ComputeApi.call, Simulator.releaseBuffer_eq, still]
    refine ⟨_, rfl, ?_⟩
    rw [Table.get?_erase_of_ne _ other.symm, buffers, Table.get?_insert_self]

/-- A buffer for an argument of any table, for any manager whose buffers are there and any context
that is there, is refused exactly if the request is for no bytes or for more than its host data has,
and then nothing has changed. Otherwise there is a new buffer that is allocated, filled and recorded
as the request and the bank of the argument have it, provided that the request did not announce an
extended pointer itself. -/
theorem create_directed (reachable : s.Reachable)
    (alive : ∀ index b, m.buffers.get? index = some b → s.buffers.contains b.handle = true)
    (live : s.contexts.contains context = true)
    (plain : request.flags.contains .extPtr = false) :
    ((∃ e t, create context args request (m, s) = .error e t) ↔ request.Unfit) ∧
      (∀ e t, create context args request (m, s) = .error e t → t = (m, s)) ∧
      (¬ request.Unfit → ∃ handle known made m' t,
        create context args request (m, s) = .ok handle (m', t) ∧
        known.handle = handle ∧ m'.buffers.get? request.index = some known ∧
        t.buffers.get? handle = some made ∧ m.Directed args request made known) := by
  by_cases unfit : request.Unfit
  · have failed : create context args request (m, s) =
        .error (.call .createBuffer .invalidValue) (m, s) :=
      create_of_refused (call_allocation_of_unfit unfit)
    rw [failed]
    refine ⟨⟨fun _ => unfit, fun _ => ⟨_, _, rfl⟩⟩, ?_, fun fit => absurd unfit fit⟩
    rintro e t ⟨⟩
    rfl
  · obtain ⟨t, created, found⟩ : ∃ t, create context args request (m, s) =
          .ok ⟨s.nextId⟩ (m.install request.index (allotted args request ⟨s.nextId⟩), t) ∧
        t.buffers.get? ⟨s.nextId⟩ = some (m.made args request) :=
      create_of_fit reachable alive live unfit
    rw [created]
    refine ⟨⟨?_, fun refused => absurd refused unfit⟩, ?_, fun _ => ?_⟩
    · rintro ⟨e, t, ⟨⟩⟩
    · rintro e t ⟨⟩
    · refine ⟨_, allotted args request ⟨s.nextId⟩, m.made args request, _, t, rfl, rfl, ?_, found,
        directed_made plain _⟩
      rw [get?_install, if_pos rfl]

/-- The buffer of an argument in a channel is exchanged for a larger one with host data. -/
theorem create_directed_exchanged :
    let s := ((Simulator.forDevice "xilinx" "u200").next (.createContext ⟨0⟩)).next
      (.createBuffer ⟨1⟩ .readOnly 4 none none)
    let m := ({} : BufferManager).install 0 ⟨⟨2⟩, 4, .readOnly, .byDefault⟩
    let args : ArgumentTable := Table.empty.insert 0
      { index := 0, name := "in", typeName := "int*", category := .mmap, bankTag := some "HBM[3]" }
    let request := BufferRequest.ofHost 0 .readWrite (Bytes.zeros 8)
    ∃ handle known made m' t, create ⟨1⟩ args request (m, s) = .ok handle (m', t) ∧
      known.handle = handle ∧ m'.buffers.get? 0 = some known ∧ t.buffers.get? handle = some made ∧
      m.Directed args request made known := by
  intro s m args request
  have reachable : s.Reachable := .next (.next (.start (Simulator.unused_forDevice _ _)) _) _
  have alive : ∀ index b, m.buffers.get? index = some b →
      s.buffers.contains b.handle = true := by
    intro index b found
    rw [get?_install] at found
    split at found
    · cases found
      rfl
    · contradiction
  have fit : ¬ request.Unfit := by
    rw [unfit_iff]
    decide
  exact (create_directed reachable alive rfl (by decide)).2.2 fit

end BufferManager

end FpgaHost
