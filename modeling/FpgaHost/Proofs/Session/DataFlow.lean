import FpgaHost.Proofs.Session.Accounts
import FpgaHost.Proofs.Simulator.HostKernels

/-!
# The data flow of a cycle

What one cycle does to all memories, said buffer by buffer (`DataFlow`): the load stage makes the
device memory of every buffer that the kernel reads its host memory, then the kernel runs once, and
the store stage makes the host memory of every buffer that the kernel writes its device memory.
Nothing else is touched.

Main statements: `marked_of_reachable` (a stage moves exactly the buffers whose access says so),
`invoke_dataFlow`, and `DataFlow.unique` (it says all there is to say of the memories).
-/

namespace FpgaHost

open Steps Attempt

/-! ### The buffers of a stage -/

namespace BufferManager

variable {m : BufferManager} {set : IndexSet} {moves : Access → Bool}

/-- A set has the indices of those buffers whose access satisfies a condition. -/
def Selects (m : BufferManager) (set : IndexSet) (moves : Access → Bool) : Prop :=
  ∀ index, set.contains index = true ↔
    ∃ c, m.buffers.get? index = some c ∧ moves c.access = true

/-- The sets of a manager have the indices of the buffers that are loaded and of those that are
stored. -/
structure Marked (m : BufferManager) : Prop where
  /-- The buffers that are loaded. -/
  load : m.Selects m.load Access.loads
  /-- The buffers that are stored. -/
  store : m.Selects m.store Access.stores

theorem contains_mark (set : IndexSet) (index j : Nat) (condition : Bool) :
    (mark set index condition).contains j = if index = j then condition else set.contains j := by
  have inserted : (set.insert index ()).get? j = if index = j then some () else set.get? j :=
    Table.get?_insert set index j ()
  have erased : (set.erase index).get? j = if index = j then none else set.get? j :=
    Table.get?_erase set index j
  rw [mark, Table.contains]
  cases condition with
  | true =>
    rw [if_pos rfl, inserted]
    split <;> rfl
  | false =>
    rw [if_neg Bool.false_ne_true, erased]
    split <;> rfl

/-- A buffer that takes its place is selected or not as its access says. -/
theorem Selects.mark (selects : m.Selects set moves) (index : Nat) (b : ManagedBuffer) :
    (m.install index b).Selects (mark set index (moves b.access)) moves := by
  intro j
  rw [contains_mark, get?_install]
  split
  · simp
  · exact selects j

theorem Marked.install (marked : m.Marked) (index : Nat) (b : ManagedBuffer) :
    (m.install index b).Marked :=
  ⟨marked.load.mark index b, marked.store.mark index b⟩

/-- The handles of a set are those of the buffers that it selects. -/
theorem Selects.mem_handles_iff (selects : m.Selects set moves) {b : BufferHandle} :
    b ∈ (m.members set).map (·.handle) ↔
      ∃ index c, m.buffers.get? index = some c ∧ c.handle = b ∧ moves c.access = true := by
  simp only [members, List.mem_map, List.mem_filterMap]
  constructor
  · rintro ⟨c, ⟨index, mem, found⟩, handle⟩
    obtain ⟨c', found', chosen⟩ := (selects index).1 (Table.mem_keys_iff.1 mem)
    obtain rfl := Option.some.inj (found.symm.trans found')
    exact ⟨index, c, found, handle, chosen⟩
  · rintro ⟨index, c, found, handle, chosen⟩
    exact ⟨c, ⟨index, Table.mem_keys_iff.2 ((selects index).2 ⟨c, found, chosen⟩), found⟩, handle⟩

/-- A set has the buffers that it selects, in the order of their indices. -/
theorem Selects.members_eq (selects : m.Selects set moves) :
    m.members set = m.buffers.values.filter (moves ·.access) := by
  have keys : set.keys = (m.buffers.filter fun _ c => moves c.access).keys := by
    refine Table.keys_congr fun index => ?_
    rw [Bool.eq_iff_iff, selects index, Table.contains_iff]
    simp only [Table.get?_filter, Option.filter_eq_some_iff]
  rw [members, keys]
  exact m.buffers.filterMap_get?_keys_filter fun c => moves c.access

/-- A set without handles selects no buffer. -/
theorem Selects.handles_eq_nil_iff (selects : m.Selects set moves) :
    (m.members set).map (·.handle) = [] ↔
      ∀ index c, m.buffers.get? index = some c → moves c.access = false := by
  rw [List.eq_nil_iff_forall_not_mem]
  constructor
  · intro none index c found
    rw [← Bool.not_eq_true]
    exact fun chosen => none c.handle (selects.mem_handles_iff.2 ⟨index, c, found, rfl, chosen⟩)
  · intro none b mem
    obtain ⟨index, c, found, -, chosen⟩ := selects.mem_handles_iff.1 mem
    rw [none index c found] at chosen
    contradiction

end BufferManager

namespace Session

section
variable {σ : Type} [ComputeApi σ]

/-- Every operation keeps the sets of the manager as they should be. -/
theorem preserves_marked (operation : Operation) :
    Preserves (fun s : Session σ => s.buffers.Marked) operation.perform := by
  refine preserves_operation (fun _ _ _ marked => marked) operation (fun request _ => ?_)
    fun step => preserves_of_action fun _ _ marked => marked
  refine Preserves.get.bind fun s => preserves_onBuffers fun v => ?_
  rintro ⟨m, b⟩ marked
  rw [BufferManager.create_eq]
  dsimp only
  cases ask (.createBuffer s.device.context _ request.size request.host _) b with
  | error e t => exact marked
  | ok handle t =>
    dsimp only
    cases m.buffers.get? request.index with
    | none => exact marked.install request.index _
    | some replaced =>
      dsimp only
      cases ask (.releaseBuffer replaced.handle) t <;> exact marked.install request.index _

theorem marked_of_start {image : Image} {config : SessionConfig} {backend : σ} {s : Session σ}
    (started : start image config backend = .ok s) : s.buffers.Marked := by
  rw [(new_of_start started).1]
  constructor <;>
    · intro index
      constructor
      · intro mem
        contradiction
      · rintro ⟨c, found, -⟩
        contradiction

end

variable {s : Session Simulator}

theorem marked_of_reachable (reachable : s.Reachable) : s.buffers.Marked := by
  induction reachable with
  | start reachable started => exact marked_of_start started
  | perform _ operation ih => exact preserves_marked operation _ ih

/-! ### Flow -/

/-- A buffer that some argument of a session has, with one of some accesses. -/
def Manages (s : Session Simulator) (accesses : List Access) (b : BufferHandle) : Prop :=
  ∃ index c, s.buffers.buffers.get? index = some c ∧ c.handle = b ∧ c.access ∈ accesses

/-- What the compute stage does to buffers, and the runs of host kernels after it. -/
inductive Computes (s : Session Simulator) (found : BufferTable) :
    BufferTable → List KernelRun → Prop
  /-- Nothing is registered under the name of the kernel. -/
  | nothing (none : s.backend.hostKernels.lookup s.kernelName = none) :
      Computes s found found s.backend.runs
  /-- What is registered runs once, on what the arguments of the kernel are bound to. -/
  | ran {program : HostKernel} {kernel : BoundKernel} {log : List Observation}
      {left : BufferTable} (registered : s.backend.hostKernels.lookup s.kernelName = some program)
      (bound : s.backend.kernels.get? s.device.kernel = some kernel)
      (runs : program.Runs kernel.args found log left) :
      Computes s found left (s.backend.runs ++ [⟨s.kernelName, log⟩])

/-- What one cycle does to memories: first the load stage, then the compute stage, then the store
stage. -/
structure DataFlow (s : Session Simulator) (loaded computed : BufferTable) (after : Memory) :
    Prop where
  /-- What the kernel reads becomes on the device what it is on the host. -/
  loads : ∀ b, s.Manages [.readOnly, .readWrite] b → ∃ u, s.backend.buffers.get? b = some u ∧
    loaded.get? b = some { u with device := u.host }
  /-- Nothing else is loaded. -/
  loadsOnly : ∀ b, ¬ s.Manages [.readOnly, .readWrite] b →
    loaded.get? b = s.backend.buffers.get? b
  /-- The kernel runs. -/
  computes : Computes s loaded computed after.runs
  /-- What the kernel writes becomes on the host what it is on the device. -/
  stores : ∀ b, s.Manages [.writeOnly, .readWrite] b → ∃ u, computed.get? b = some u ∧
    after.buffers.get? b = some { u with host := u.device }
  /-- Nothing else is stored. -/
  storesOnly : ∀ b, ¬ s.Manages [.writeOnly, .readWrite] b →
    after.buffers.get? b = computed.get? b

theorem Computes.unique {found left left' : BufferTable} {runs runs' : List KernelRun}
    (h : Computes s found left runs) (h' : Computes s found left' runs') :
    left = left' ∧ runs = runs' := by
  cases h with
  | nothing none =>
    cases h' with
    | nothing _ => exact ⟨rfl, rfl⟩
    | ran registered bound ran =>
      rw [none] at registered
      contradiction
  | ran registered bound ran =>
    cases h' with
    | nothing none =>
      rw [none] at registered
      contradiction
    | ran registered' bound' ran' =>
      obtain rfl := Option.some.inj (registered.symm.trans registered')
      obtain rfl := Option.some.inj (bound.symm.trans bound')
      obtain ⟨rfl, rfl⟩ := ran.unique ran'
      exact ⟨rfl, rfl⟩

/-- There is only one memory that a cycle can leave. -/
theorem DataFlow.unique {loaded loaded' computed computed' : BufferTable} {after after' : Memory}
    (h : DataFlow s loaded computed after) (h' : DataFlow s loaded' computed' after') :
    after = after' := by
  obtain rfl : loaded = loaded' := by
    refine Table.ext_get? fun b => ?_
    by_cases manages : s.Manages [.readOnly, .readWrite] b
    · obtain ⟨u, found, there⟩ := h.loads b manages
      obtain ⟨u', found', there'⟩ := h'.loads b manages
      obtain rfl := Option.some.inj (found.symm.trans found')
      rw [there, there']
    · rw [h.loadsOnly b manages, h'.loadsOnly b manages]
  obtain ⟨rfl, runs⟩ := h.computes.unique h'.computes
  have buffers : after.buffers = after'.buffers := by
    refine Table.ext_get? fun b => ?_
    by_cases manages : s.Manages [.writeOnly, .readWrite] b
    · obtain ⟨u, found, there⟩ := h.stores b manages
      obtain ⟨u', found', there'⟩ := h'.stores b manages
      obtain rfl := Option.some.inj (found.symm.trans found')
      rw [there, there']
    · rw [h.storesOnly b manages, h'.storesOnly b manages]
  cases after
  cases after'
  dsimp only at buffers runs
  rw [buffers, runs]

theorem mem_loadHandles_iff (marked : s.buffers.Marked) {b : BufferHandle} :
    b ∈ s.buffers.loadHandles ↔ s.Manages [.readOnly, .readWrite] b := by
  refine marked.load.mem_handles_iff.trans (exists₂_congr fun index c => ?_)
  cases c.access <;> simp [Access.loads]

theorem mem_storeHandles_iff (marked : s.buffers.Marked) {b : BufferHandle} :
    b ∈ s.buffers.storeHandles ↔ s.Manages [.writeOnly, .readWrite] b := by
  refine marked.store.mem_handles_iff.trans (exists₂_congr fun index c => ?_)
  cases c.access <;> simp [Access.stores]

theorem contains_of_manages (sound : s.Sound) {accesses : List Access} {b : BufferHandle}
    (manages : s.Manages accesses b) : s.backend.buffers.contains b = true := by
  obtain ⟨index, c, found, rfl, -⟩ := manages
  exact sound.1.buffers.live index c found

/-- The kernel of a session runs what is registered under its name. -/
theorem computes_task (identified : s.Identified) {found : BufferTable}
    (sized : BufferTable.Sized found) :
    Computes s found
      (s.backend.effect (.task s.device.kernel) ⟨found, s.backend.runs⟩).buffers
      (s.backend.effect (.task s.device.kernel) ⟨found, s.backend.runs⟩).runs := by
  obtain ⟨kernel, bound, name⟩ := Option.map_eq_some_iff.1 identified.kernel
  cases registered : s.backend.hostKernels.lookup s.kernelName with
  | none =>
    have none : s.backend.hostKernelOf s.device.kernel = none := by
      rw [Simulator.hostKernelOf, bound, Option.bind_some, name, registered, Option.map_none]
    rw [Simulator.effect, none]
    exact .nothing registered
  | some program =>
    have some : s.backend.hostKernelOf s.device.kernel = some (kernel, program) := by
      rw [Simulator.hostKernelOf, bound, Option.bind_some, name, registered, Option.map_some]
    rw [Simulator.effect, some]
    dsimp only
    rw [name]
    exact .ran registered bound (Interaction.runs_run kernel.args program sized)

/-- The stages of a cycle move what they should, one after the other. -/
theorem dataFlow_outcome (reachable : s.Reachable) : ∃ loaded computed,
    DataFlow s loaded computed
      (outcome s.device s.buffers s.backend.effect Stage.all s.backend.memory) := by
  have sound := sound_of_reachable reachable
  have marked := marked_of_reachable reachable
  have sized := s.backend.sized_effect (.migrate s.buffers.loadHandles .toDevice)
    (m := s.backend.memory) reachable.backend.sized
  have load := s.backend.get?_effect_migrate s.buffers.loadHandles .toDevice s.backend.memory
  have task := s.backend.contains_effect (.task s.device.kernel)
    (s.backend.effect (.migrate s.buffers.loadHandles .toDevice) s.backend.memory)
  have store := s.backend.get?_effect_migrate s.buffers.storeHandles .toHost
    (s.backend.effect (.task s.device.kernel)
      (s.backend.effect (.migrate s.buffers.loadHandles .toDevice) s.backend.memory))
  refine ⟨_, _, fun b manages => ?_, fun b other => ?_,
    computes_task (identified_of_reachable reachable) sized, fun b manages => ?_,
    fun b other => ?_⟩
  · obtain ⟨u, found⟩ := Table.contains_iff.1 (contains_of_manages sound manages)
    refine ⟨u, found, (load b).trans ?_⟩
    rw [if_pos ((mem_loadHandles_iff marked).2 manages)]
    exact congrArg (Option.map (Buffer.migrate · .toDevice)) found
  · exact (load b).trans (if_neg fun mem => other ((mem_loadHandles_iff marked).1 mem))
  · -- The kernel frees no buffer, so what is to be stored is still there.
    have there := ((task b).trans (s.backend.contains_effect _ _ b)).trans
      (contains_of_manages sound manages)
    obtain ⟨u, found⟩ := Table.contains_iff.1 there
    refine ⟨u, found, (store b).trans ?_⟩
    rw [if_pos ((mem_storeHandles_iff marked).2 manages)]
    exact congrArg (Option.map (Buffer.migrate · .toHost)) found
  · exact (store b).trans (if_neg fun mem => other ((mem_storeHandles_iff marked).1 mem))

/-- The data flow of one cycle. On a session on whose queue nothing is pending, between two cycles
and with times recorded, a whole cycle succeeds whatever its buffers, its bindings and its host
kernel are, and what it does to all memories is what the three stages do one after the other. -/
theorem invoke_dataFlow (reachable : s.Reachable)
    (ready : s.pipeline.state = .idle ∨ s.pipeline.state = .stored)
    (idle : s.backend.pendingOf s.device.queue = [])
    (profiling : s.config.queue.profiling = true) :
    ∃ measured t loaded computed, invoke s = .ok measured t ∧
      DataFlow s loaded computed t.backend.memory := by
  have ready : Stage.load.startsFrom.contains s.pipeline.state = true := by
    rcases ready with state | state <;> rw [state] <;> rfl
  have running := running_of_sound (sound_of_reachable reachable) idle ready
  obtain ⟨measured, t, ran, reached⟩ := invoke_of_running running reachable ready profiling
  obtain ⟨loaded, computed, flow⟩ := dataFlow_outcome reachable
  exact ⟨measured, t, loaded, computed, ran, reached ▸ flow⟩

/-- A session whose kernel adds a number to the bytes of one buffer and puts them into a shorter
one. -/
def adding : Session Simulator :=
  let add : HostKernel := .read 0 fun data => .scalar 2 fun number =>
    .write 1 ((data.getD (.ofList [])).map (· + (number.getD []).headD 0)) fun _ => .done []
  (begun (ImageSpec.twoBanks.assembled .hardwareEmulation ImageSpec.twoBanks.manifest)
    [("vadd", add)] {}).performAll
    [.createBuffer (.ofHost 0 .readOnly (.ofList [1, 2, 3])), .setBuffer 0,
      .createBuffer (.ofHost 1 .writeOnly (.ofList [0, 0])), .setBuffer 1, .setScalar 2 [10]]

theorem reachable_adding : adding.Reachable := by
  obtain ⟨backend, image, config, reachable, started⟩ := start_twoBanks _
  exact holds_performAll (fun operation _ h => h.perform operation) (.start reachable started) _

theorem invoke_dataFlow_adding :
    adding.Reachable ∧ adding.pipeline.state = .idle ∧
    adding.backend.pendingOf adding.device.queue = [] ∧
    adding.config.queue.profiling = true ∧
    ∃ measured t loaded computed, invoke adding = .ok measured t ∧
      DataFlow adding loaded computed t.backend.memory :=
  ⟨reachable_adding, rfl, rfl, rfl, invoke_dataFlow reachable_adding (.inl rfl) rfl rfl⟩

/-- The host and device memories of its buffers after the cycle. -/
example : (stateOf (invoke adding)).backend.buffers.values.map
    (fun b => (b.host.toList, b.device.toList)) = [([1, 2, 3], [1, 2, 3]), ([11, 12], [11, 12])] := by
  decide +kernel

end Session

end FpgaHost
