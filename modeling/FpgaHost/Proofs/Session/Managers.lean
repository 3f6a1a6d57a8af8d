import FpgaHost.Device.Instrumented
import FpgaHost.Proofs.Session.Arguments
import FpgaHost.Proofs.Session.DataFlow

/-!
# Buffer managers on any backend

A buffer manager keeps three collections: the buffers by index, and the indices of those that are
loaded and of those that are stored. Here it is used on its own, on a backend of which nothing is
known: any allocation and any release may fail. In every state that it can come to, the collections
agree (`Consistent`), so no index of a set is without a buffer.

A new buffer takes its place before the old one is given back. So there are two ways to fail: when
the allocation is refused nothing has happened, and when the release is refused everything has, and
the manager knows only the new buffer.

Main statement: `consistent_under_faults`.
-/

namespace FpgaHost

open Steps Attempt

namespace BufferManager

variable {m : BufferManager} {set : IndexSet} {moves : Access → Bool}

/-! ### Consistent managers -/

/-- A set of indices, with the handles and the size of the buffers that it stands for, belongs to
the buffers of some accesses. -/
structure Lists (m : BufferManager) (accesses : List Access) (set : IndexSet)
    (handles : List BufferHandle) (bytes : Nat) : Prop where
  /-- The set has the indices of these buffers. -/
  indices : ∀ index, set.contains index = true ↔
    ∃ b, m.buffers.get? index = some b ∧ b.access ∈ accesses
  /-- The handles are theirs, one for each, in the order of the indices, and the size is the sum of
  theirs: all of it if that is a word, and cut to a word otherwise. -/
  listed : ∃ chosen : List (Nat × ManagedBuffer), chosen.Pairwise (·.1 < ·.1) ∧
    (∀ index b, (index, b) ∈ chosen ↔ m.buffers.get? index = some b ∧ b.access ∈ accesses) ∧
    handles = chosen.map (·.2.handle) ∧ bytes = sumWords (chosen.map (·.2.size)) ∧
    (IsWord (chosen.map (·.2.size)).sum → bytes = (chosen.map (·.2.size)).sum)

/-- What is told of the buffers of either stage agrees with the buffers. -/
structure Consistent (m : BufferManager) : Prop where
  /-- The buffers that are loaded are those that the kernel reads. -/
  load : m.Lists [.readOnly, .readWrite] m.load m.loadHandles m.loadBytes
  /-- The buffers that are stored are those that the kernel writes. -/
  store : m.Lists [.writeOnly, .readWrite] m.store m.storeHandles m.storeBytes

/-- A set that selects the buffers of some accesses lists them. -/
theorem Selects.lists (selects : m.Selects set moves) {accesses : List Access}
    (same : ∀ access, moves access = true ↔ access ∈ accesses) :
    m.Lists accesses set ((m.members set).map (·.handle)) (m.bytesOf set) where
  indices index := by
    simp only [selects index, same]
  listed := by
    have members : m.members set = (m.buffers.entries.filter (moves ·.2.access)).map (·.2) := by
      rw [selects.members_eq, Table.values, List.filter_map]
      rfl
    have bytes : m.bytesOf set =
        sumWords ((m.buffers.entries.filter (moves ·.2.access)).map (·.2.size)) := by
      rw [bytesOf, members, List.map_map]
      rfl
    refine ⟨m.buffers.entries.filter (moves ·.2.access), m.buffers.ordered.filter _, ?_, ?_, bytes,
      fun word => bytes.trans (sumWords_of_isWord word)⟩
    · intro index b
      rw [List.mem_filter, Table.mem_entries_iff, same]
    · rw [members, List.map_map]
      rfl

theorem Marked.consistent (marked : m.Marked) : m.Consistent where
  load := marked.load.lists fun access => by cases access <;> decide
  store := marked.store.lists fun access => by cases access <;> decide

theorem marked_of_empty {m : BufferManager} (buffers : m.buffers = .empty) (load : m.load = .empty)
    (store : m.store = .empty) : m.Marked := by
  constructor <;>
    · intro index
      simp [buffers, load, store, Table.contains]

/-! ### Calls of a manager -/

/-- The allocation that a manager asks for. -/
abbrev allocation (m : BufferManager) (context : ContextHandle) (args : ArgumentTable)
    (request : BufferRequest) : Request :=
  let placement := BufferPlacement.ofArgument (args.get? request.index)
  .createBuffer context (m.allocationFlags request placement) request.size request.host
    (placement.directive? request.host.isSome)

/-- The buffer that is known once its allocation was answered. -/
def allotted (args : ArgumentTable) (request : BufferRequest) (handle : BufferHandle) :
    ManagedBuffer :=
  { handle
    size := request.size
    access := request.access
    placement := .ofArgument (args.get? request.index) }

/-- Something that a manager is asked to do. -/
inductive Step where
  /-- To allocate the buffer of an argument. -/
  | create (context : ContextHandle) (args : ArgumentTable) (request : BufferRequest)
  /-- To free all buffers. -/
  | releaseAll

section
variable {σ : Type} [ComputeApi σ]

/-- What a step leaves, whether it succeeds or not. -/
def Step.after (ms : BufferManager × σ) : Step → BufferManager × σ
  | .create context args request => stateOf (BufferManager.create context args request ms)
  | .releaseAll => stateOf (BufferManager.releaseAll ms)

/-- The handle that the backend gives a step. -/
def Step.granted? (ms : BufferManager × σ) : Step → Option BufferHandle
  | .create context args request =>
    match ComputeApi.call (ms.1.allocation context args request) ms.2 with
    | .ok handle _ => some handle
    | .error _ _ => none
  | .releaseAll => none

/-- What a sequence of steps leaves. -/
def afterAll (ms : BufferManager × σ) (steps : List Step) : BufferManager × σ :=
  steps.foldl Step.after ms

/-- The backend never gives the manager a handle that it has already. -/
def Unshared (ms : BufferManager × σ) : List Step → Prop
  | [] => True
  | step :: rest =>
    (∀ handle, step.granted? ms = some handle →
      ∀ index b, ms.1.buffers.get? index = some b → b.handle ≠ handle) ∧
    Unshared (step.after ms) rest

variable {s t : σ} {context : ContextHandle} {args : ArgumentTable} {request : BufferRequest}

/-! ### What a step does -/

/-- An allocation that is refused is all that happens. -/
theorem create_of_refused {status : Status}
    (refused : ComputeApi.call (m.allocation context args request) s = .error status t) :
    create context args request (m, s) = .error (.call .createBuffer status) (m, t) := by
  rw [create_eq]
  dsimp only
  rw [ask_apply, refused]
  rfl

/-- Once the allocation is answered the new buffer has its place, whatever becomes of the old
one. -/
theorem create_of_granted {handle : BufferHandle}
    (granted : ComputeApi.call (m.allocation context args request) s = .ok handle t) :
    create context args request (m, s) =
      let m' := m.install request.index (allotted args request handle)
      match m.buffers.get? request.index with
      | none => .ok handle (m', t)
      | some old =>
        match ComputeApi.call (.releaseBuffer old.handle) t with
        | .ok _ u => .ok handle (m', u)
        | .error status u => .error (.call .releaseBuffer status) (m', u) := by
  rw [create_eq]
  dsimp only
  rw [ask_apply, granted]
  dsimp only
  cases m.buffers.get? request.index with
  | none => rfl
  | some old =>
    dsimp only
    rw [ask_apply]
    cases ComputeApi.call (.releaseBuffer old.handle) t <;> rfl

/-- What a new buffer leaves: itself in its place, and the old one given back. -/
theorem stateOf_create_of_granted {handle : BufferHandle}
    (granted : ComputeApi.call (m.allocation context args request) s = .ok handle t) :
    stateOf (create context args request (m, s)) =
      (m.install request.index (allotted args request handle),
        match m.buffers.get? request.index with
        | none => t
        | some old => Request.after (.releaseBuffer old.handle) t) := by
  rw [create_of_granted granted]
  dsimp only
  cases m.buffers.get? request.index with
  | none => rfl
  | some old =>
    dsimp only
    rw [Request.after]
    cases ComputeApi.call (.releaseBuffer old.handle) t <;> rfl

/-- A step leaves the manager as it was, gives an argument the buffer that was granted, or clears
it. -/
theorem after_cases (m : BufferManager) (s : σ) (step : Step) :
    (step.after (m, s)).1 = m ∨
      (∃ index b, step.granted? (m, s) = some b.handle ∧ (step.after (m, s)).1 = m.install index b) ∨
      (step.after (m, s)).1 = m.cleared := by
  cases step with
  | releaseAll =>
    have forgotten : releaseAll (m, s) = onSecond (release m.buffers.values) (m.cleared, s) := rfl
    rw [Step.after, forgotten, onSecond_apply]
    exact .inr (.inr (by cases release m.buffers.values s <;> rfl))
  | create context args request =>
    rw [Step.after, Step.granted?]
    cases granted : ComputeApi.call (m.allocation context args request) s with
    | error status t =>
      rw [create_of_refused granted]
      exact .inl rfl
    | ok handle t =>
      rw [stateOf_create_of_granted granted]
      exact .inr (.inl ⟨request.index, allotted args request handle, rfl, rfl⟩)

theorem Marked.after (marked : m.Marked) (s : σ) (step : Step) : (step.after (m, s)).1.Marked := by
  obtain same | ⟨index, b, -, installed⟩ | cleared := after_cases m s step
  · rwa [same]
  · rw [installed]
    exact marked.install index b
  · rw [cleared]
    exact marked_of_empty rfl rfl rfl

theorem Marked.afterAll {ms : BufferManager × σ} (marked : ms.1.Marked) (steps : List Step) :
    (afterAll ms steps).1.Marked := by
  induction steps generalizing ms with
  | nil => exact marked
  | cons step rest ih => exact ih (marked.after ms.2 step)

theorem Distinct.after (distinct : m.Distinct) {step : Step}
    (new : ∀ handle, step.granted? (m, s) = some handle →
      ∀ index b, m.buffers.get? index = some b → b.handle ≠ handle) :
    (step.after (m, s)).1.Distinct := by
  obtain same | ⟨index, b, granted, installed⟩ | cleared := after_cases m s step
  · rwa [same]
  · rw [installed]
    exact distinct.install index (new b.handle granted)
  · rw [cleared]
    exact fun i j b c found => by contradiction

theorem Distinct.afterAll {ms : BufferManager × σ} (distinct : ms.1.Distinct) {steps : List Step}
    {step : Step} (unshared : Unshared ms (steps ++ [step])) :
    (BufferManager.afterAll ms steps).1.Distinct ∧
      ∀ handle, step.granted? (BufferManager.afterAll ms steps) = some handle →
        ∀ index b, (BufferManager.afterAll ms steps).1.buffers.get? index = some b →
          b.handle ≠ handle := by
  induction steps generalizing ms with
  | nil => exact ⟨distinct, unshared.1⟩
  | cons first rest ih => exact ih (distinct.after unshared.1) unshared.2

/-- What a buffer manager knows is consistent in every state that it can come to, on a backend of
which any call may fail. When an allocation is refused the manager stays as it is. When it is
answered the new buffer takes the place of the old one, and the manager is consistent, also if the
old one cannot be given back and the attempt fails for that; and it does not know the handle of the
old one any more, unless the backend gave it one handle for two buffers. -/
theorem consistent_under_faults (force : Bool) (backend : σ) (steps : List Step)
    (context : ContextHandle) (args : ArgumentTable) (request : BufferRequest) :
    let start : BufferManager × σ := ({ forceHostPointer := force }, backend)
    let m := (afterAll start steps).1
    let s := (afterAll start steps).2
    m.Consistent ∧
      (∀ status t, ComputeApi.call (m.allocation context args request) s = .error status t →
        create context args request (m, s) = .error (.call .createBuffer status) (m, t)) ∧
      ∀ handle t, ComputeApi.call (m.allocation context args request) s = .ok handle t →
        ∃ m' : BufferManager, m'.Consistent ∧
          (∀ index, m'.buffers.get? index =
            if request.index = index then some (allotted args request handle)
            else m.buffers.get? index) ∧
          (m.buffers.get? request.index = none →
            create context args request (m, s) = .ok handle (m', t)) ∧
          ∀ old, m.buffers.get? request.index = some old →
            (create context args request (m, s) =
              match ComputeApi.call (.releaseBuffer old.handle) t with
              | .ok _ u => .ok handle (m', u)
              | .error status u => .error (.call .releaseBuffer status) (m', u)) ∧
            (Unshared start (steps ++ [.create context args request]) →
              ∀ index b, m'.buffers.get? index = some b → b.handle ≠ old.handle) := by
  intro start m s
  have empty : start.1.Marked := marked_of_empty rfl rfl rfl
  have marked : m.Marked := empty.afterAll steps
  refine ⟨marked.consistent, fun status t => create_of_refused, fun handle t granted => ?_⟩
  have created := create_of_granted granted
  refine ⟨m.install request.index (allotted args request handle), (marked.install _ _).consistent,
    fun index => get?_install m request.index index _, fun none => ?_, fun old had => ⟨?_, ?_⟩⟩
  · rw [created, none]
  · rw [created, had]
  · intro unshared index b found
    have vacant : start.1.Distinct := fun i j b c found => by contradiction
    obtain ⟨distinct, new⟩ := vacant.afterAll unshared
    have given : Step.granted? (m, s) (.create context args request) = some handle := by
      rw [Step.granted?, granted]
    exact distinct.replaced (new handle given request.index old had).symm had index b found

end

/-- A simulator with a context that refuses to free the first buffer. -/
def reluctant : Instrumented Simulator where
  inner := (Simulator.forDevice "xilinx" "u200").next (.createContext ⟨0⟩)
  instruments := { faults := [⟨.releaseBuffer, 1, .outOfResources⟩] }

/-- The buffer of an argument is exchanged for one of another access and size, and the one that it
had cannot be freed. -/
theorem consistent_under_faults_reluctant :
    let ms := afterAll ({}, reluctant)
      [.create ⟨1⟩ .empty { index := 0, access := .readWrite, size := 16 }]
    ∃ m' u, create ⟨1⟩ .empty { index := 0, access := .readOnly, size := 32 } ms =
        .error (.call .releaseBuffer .outOfResources) (m', u) ∧
      m'.Consistent ∧
      m'.buffers.get? 0 = some ⟨⟨3⟩, 32, .readOnly, .unplaced⟩ ∧
      ∀ index b, m'.buffers.get? index = some b → b.handle ≠ ⟨2⟩ := by
  intro ms
  obtain ⟨-, -, granted⟩ := consistent_under_faults true reluctant
    [.create ⟨1⟩ .empty { index := 0, access := .readWrite, size := 16 }] ⟨1⟩ .empty
    { index := 0, access := .readOnly, size := 32 }
  obtain ⟨m', consistent, buffers, -, replaced⟩ := granted ⟨3⟩ _ rfl
  obtain ⟨created, forgotten⟩ := replaced ⟨⟨2⟩, 16, .readWrite, .unplaced⟩ rfl
  refine ⟨m', _, created, consistent, buffers 0, forgotten ⟨fun _ _ _ _ found => ?_, ?_, trivial⟩⟩
  · contradiction
  · rintro handle ⟨⟩ index b found
    have installed : (install {} 0 ⟨⟨2⟩, 16, .readWrite, .unplaced⟩).buffers.get? index = some b :=
      found
    rw [get?_install] at installed
    split at installed
    · cases installed
      decide
    · contradiction

end BufferManager

end FpgaHost
