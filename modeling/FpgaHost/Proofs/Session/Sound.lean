import FpgaHost.Proofs.Session.Stages

/-!
# Sound sessions

Whatever is done with a session, what it owns on its backend is there: its queue, its kernel, one
buffer for each argument that has one, no buffer for two arguments, and every event it holds. This
is kept by what every operation asks of the backend, whether it succeeds or not: the stages
(`Pipeline.preserves_write` and its like), requests that free nothing (`Pipeline.Good.next`) and new
buffers (`Pipeline.preserves_create`).
-/

namespace FpgaHost

open Steps Attempt

/-! ### Buffers -/

namespace BufferManager

variable {m : BufferManager} {s t : Simulator}

theorem get?_install (m : BufferManager) (index j : Nat) (b : ManagedBuffer) :
    (m.install index b).buffers.get? j = if index = j then some b else m.buffers.get? j :=
  Table.get?_insert m.buffers index j b

/-- No two arguments have buffers of one handle. -/
def Distinct (m : BufferManager) : Prop :=
  ∀ i j b c, m.buffers.get? i = some b → m.buffers.get? j = some c → b.handle = c.handle → i = j

/-- A buffer whose handle no argument has takes its place beside the others. -/
theorem Distinct.install (distinct : m.Distinct) (index : Nat) {b : ManagedBuffer}
    (new : ∀ j c, m.buffers.get? j = some c → c.handle ≠ b.handle) :
    (m.install index b).Distinct := by
  intro i j c d one other same
  rw [get?_install] at one other
  split at one <;> split at other
  next here there => exact here.symm.trans there
  next =>
    obtain rfl := Option.some.inj one
    exact absurd same.symm (new j d other)
  next =>
    obtain rfl := Option.some.inj other
    exact absurd same (new i c one)
  next => exact distinct i j c d one other same

/-- The buffer that another one replaces is no argument's any more. -/
theorem Distinct.replaced (distinct : m.Distinct) {b old : ManagedBuffer} {index : Nat}
    (new : b.handle ≠ old.handle) (had : m.buffers.get? index = some old) (j : Nat)
    (c : ManagedBuffer) (found : (m.install index b).buffers.get? j = some c) :
    c.handle ≠ old.handle := by
  rw [get?_install] at found
  split at found
  · obtain rfl := Option.some.inj found
    exact new
  next elsewhere =>
    exact fun same => elsewhere (distinct j index c old found had same).symm

/-- The buffers of a manager are there, and no two arguments share one. -/
structure Backed (m : BufferManager) (s : Simulator) : Prop where
  /-- They are there. -/
  live : ∀ index b, m.buffers.get? index = some b → s.buffers.contains b.handle = true
  /-- No two arguments share one. -/
  distinct : ∀ i j b c, m.buffers.get? i = some b → m.buffers.get? j = some c →
    b.handle = c.handle → i = j

/-- A request that frees no buffer leaves all of them. -/
theorem Backed.retained (backed : m.Backed s) {r : Request} (retains : s.Retains r t)
    (keeps : ∀ b, r ≠ .releaseBuffer b) : m.Backed t where
  live index b found := retains.buffers b.handle (keeps _) (backed.live index b found)
  distinct := backed.distinct

/-- So are the buffers that a stage moves. -/
theorem Backed.members (backed : m.Backed s) (set : IndexSet) :
    ∀ b ∈ (m.members set).map (·.handle), s.buffers.contains b = true := by
  intro b mem
  obtain ⟨c, member, rfl⟩ := List.mem_map.1 mem
  obtain ⟨index, -, found⟩ := List.mem_filterMap.1 member
  exact backed.live index c found

/-- A buffer that is there has another handle than the next one. -/
theorem Backed.handle_ne (backed : m.Backed s) {n : Nat}
    (numbered : ∀ k, s.buffers.contains k = true → k.id < n) {index : Nat} {b : ManagedBuffer}
    (found : m.buffers.get? index = some b) : b.handle ≠ ⟨n⟩ := by
  intro equal
  have below := numbered b.handle (backed.live index b found)
  rw [equal] at below
  exact Nat.lt_irrefl n below

/-- A new buffer takes its place beside the others. -/
theorem Backed.installed (backed : m.Backed s) {b : ManagedBuffer} {n : Nat} {u : Buffer}
    (numbered : ∀ k, s.buffers.contains k = true → k.id < n) (new : b.handle = ⟨n⟩)
    (buffers : t.buffers = s.buffers.insert ⟨n⟩ u) (index : Nat) :
    (m.install index b).Backed t where
  live j c found := by
    rw [get?_install] at found
    rw [buffers, Table.contains_insert]
    split at found
    · obtain rfl := Option.some.inj found
      exact .inl new
    · exact .inr (backed.live j c found)
  distinct := Distinct.install backed.distinct index fun j c found => by
    rw [new]
    exact backed.handle_ne numbered found

/-- The buffer that a new one replaces is no argument's any more. -/
theorem Backed.replaced (backed : m.Backed s) {b old : ManagedBuffer} {n index : Nat}
    (numbered : ∀ k, s.buffers.contains k = true → k.id < n) (new : b.handle = ⟨n⟩)
    (had : m.buffers.get? index = some old) (j : Nat) (c : ManagedBuffer)
    (found : (m.install index b).buffers.get? j = some c) : c.handle ≠ old.handle := by
  refine Distinct.replaced backed.distinct ?_ had j c found
  rw [new]
  exact (backed.handle_ne numbered had).symm

/-- Freeing a buffer that no argument has leaves those of all arguments. -/
theorem Backed.freed (backed : m.Backed s) {handle : BufferHandle}
    (unused : ∀ index b, m.buffers.get? index = some b → b.handle ≠ handle)
    (buffers : t.buffers = s.buffers.erase handle) : m.Backed t where
  live index b found := by
    rw [buffers, Table.contains_erase]
    exact ⟨unused index b found, backed.live index b found⟩
  distinct := backed.distinct

end BufferManager

/-! ### What a session stands on -/

/-- What a session owns beside its events is there. -/
structure Grounded (d : BoundDevice) (m : BufferManager) (s : Simulator) : Prop where
  /-- Handles are numbered. -/
  numbered : s.Numbered
  /-- The queue is there. -/
  queue : s.queues.contains d.queue = true
  /-- The kernel is there. -/
  kernel : s.kernels.contains d.kernel = true
  /-- The buffers are there. -/
  buffers : m.Backed s

namespace Grounded

variable {d : BoundDevice} {m : BufferManager} {s t : Simulator} {r : Request}

theorem does (ground : Grounded d m s) (does : s.Does r t)
    (keeps : ∀ b, r ≠ .releaseBuffer b) : Grounded d m t := by
  have retains := ground.numbered.retains does
  exact ⟨ground.numbered.does does, retains.hasQueue ground.queue, retains.hasKernel ground.kernel,
    ground.buffers.retained retains keeps⟩

theorem gaveBack (ground : Grounded d m s) (gave : Pipeline.GaveBack s t) : Grounded d m t := by
  induction gave with
  | none => exact ground
  | more before event ih => exact ih.does (.releaseEvent event) (by simp)

end Grounded

/-! ### The pipeline -/

namespace Pipeline

variable {d : BoundDevice} {m : BufferManager}

/-- A pipeline on a backend: what the session owns is there, and what the pipeline holds. -/
def Good (d : BoundDevice) (m : BufferManager) (ps : Pipeline × Simulator) : Prop :=
  Grounded d m ps.2 ∧ ps.1.Held d.queue ps.2

/-- What submitting a migration comes to. -/
inductive Migration (s : Simulator) (queue : QueueHandle) :
    EStateM.Result SessionError Simulator (Option EventHandle) → Prop
  /-- It is refused. -/
  | refused (e : SessionError) : Migration s queue (.error e s)
  /-- There is nothing to move. -/
  | skipped : Migration s queue (.ok none s)
  /-- It is accepted. -/
  | accepted {q : Queue} (command : Command) (wait : List EventHandle)
      (found : s.queues.get? queue = some q) :
      Migration s queue
        (.ok (some ⟨s.nextId⟩) (s.submitted queue q.properties.profiling command wait))

theorem migration_submitMigration (queue : QueueHandle) (buffers : List BufferHandle)
    (direction : Direction) (wait : List EventHandle) (s : Simulator) :
    Migration s queue (submitMigration queue buffers direction wait s) := by
  rw [submitMigration_apply]
  split
  · exact .skipped
  · have submission := Simulator.submission_enqueueMigrate s queue buffers direction wait
    generalize Simulator.enqueueMigrate queue buffers direction wait s = outcome at submission
    cases submission with
    | refused status => exact .refused _
    | accepted command found => exact .accepted command wait found

/-- A stage that submits a command is good afterwards. -/
theorem Good.submitted {p : Pipeline} {s : Simulator} (good : Good d m (p, s)) {q : Queue}
    (found : s.queues.get? d.queue = some q) (stage : Stage) (bytes : Nat) (command : Command)
    (wait : List EventHandle) :
    Good d m (p.submitted stage { event := some ⟨s.nextId⟩, bytes },
      s.submitted d.queue q.properties.profiling command wait) := by
  have does : s.Does (.enqueueTask d.queue ⟨0⟩ wait)
    (s.submitted d.queue q.properties.profiling command wait) := .submit rfl d.queue _ command wait
  exact ⟨good.1.does does (by simp),
    good.2.submitted good.1.numbered found stage bytes command wait⟩

theorem preserves_write (n : BufferManager) :
    Preserves (Good d m) (write (σ := Simulator) d.queue n) := by
  rintro ⟨p, s⟩ ⟨ground, held⟩
  cases ready : Stage.load.startsFrom.contains p.state with
  | false =>
    rw [write_refused d.queue n p s ready]
    exact ⟨ground, held⟩
  | true =>
    obtain ⟨t, gave, wrote⟩ := write_of_held held n ready
    have good : Good d m (p.emptied, t) :=
      ⟨ground.gaveBack gave, held_of_none p.event_emptied d.queue t⟩
    have migration := migration_submitMigration d.queue n.loadHandles .toDevice [] t
    rw [wrote]
    generalize submitMigration d.queue n.loadHandles .toDevice [] t = outcome at migration
    cases migration with
    | refused e => exact good
    | skipped => exact ⟨good.1, good.2.skipped .load n.loadBytes⟩
    | accepted command wait found => exact good.submitted found .load n.loadBytes command wait

theorem preserves_execute (kernel : KernelHandle) :
    Preserves (Good d m) (execute (σ := Simulator) d.queue kernel) := by
  rintro ⟨p, s⟩ good
  rw [execute_apply]
  split
  · have submission := Simulator.submission_enqueueTask s d.queue kernel p.load.event.toList
    generalize Simulator.enqueueTask d.queue kernel p.load.event.toList s = outcome at submission
    cases submission with
    | refused status => exact good
    | accepted command found => exact good.submitted found .compute 0 command _
  · exact good

theorem preserves_read (n : BufferManager) :
    Preserves (Good d m) (read (σ := Simulator) d.queue n) := by
  rintro ⟨p, s⟩ good
  rw [read_eq]
  split
  · have migration := migration_submitMigration d.queue n.storeHandles .toHost
      p.compute.event.toList s
    generalize submitMigration d.queue n.storeHandles .toHost p.compute.event.toList s = outcome
      at migration
    cases migration with
    | refused e => exact good
    | skipped => exact ⟨good.1, good.2.skipped .store n.storeBytes⟩
    | accepted command wait found => exact good.submitted found .store n.storeBytes command wait
  · exact good

/-- A request that gives nothing back keeps a pipeline good. -/
theorem Good.next {p : Pipeline} {s : Simulator} (good : Good d m (p, s)) {r : Request}
    (events : ∀ e, r ≠ .releaseEvent e) (buffers : ∀ b, r ≠ .releaseBuffer b) :
    Good d m (p, s.next r) := by
  have does := Simulator.does_next s r
  have retains := good.1.numbered.retains does
  exact ⟨good.1.does does buffers, good.2.retained retains events good.1.queue⟩

theorem preserves_request {r : Request} (events : ∀ e, r ≠ .releaseEvent e)
    (buffers : ∀ b, r ≠ .releaseBuffer b) :
    Preserves (Good d m) (onSecond (ask r) : Attempt (Pipeline × Simulator) r.Answer) := by
  rintro ⟨p, s⟩ good
  rw [stateOf_onSecond, stateOf_ask]
  exact good.next events buffers

theorem preserves_finish (queue : QueueHandle) :
    Preserves (Good d m) (finish (σ := Simulator) queue) := by
  refine (preserves_request (by simp) (by simp)).bind fun _ =>
    (preserves_request (by simp) (by simp)).bind fun _ => ?_
  rintro ⟨p, s⟩ ⟨ground, held⟩
  exact ⟨ground, held.live, held.profiled, held.distinct⟩

end Pipeline

/-! ### New buffers -/

namespace BufferManager

/-- What becomes of a manager and its backend when a buffer is asked for. -/
inductive Created (request : BufferRequest) (m : BufferManager) (s : Simulator) :
    BufferManager × Simulator → Prop
  /-- The allocation is refused. -/
  | refused : Created request m s (m, s)
  /-- The argument had no buffer. -/
  | added {b : ManagedBuffer} (allocation : Allocation) (new : b.handle = ⟨s.nextId⟩)
      (long : request.host.any (·.size < allocation.size) = false)
      (access : b.access = request.access) (none : m.buffers.get? request.index = none) :
      Created request m s (m.install request.index b, s.allocated allocation request.host)
  /-- The buffer that the argument had is freed. -/
  | replaced {b old : ManagedBuffer} (allocation : Allocation) (new : b.handle = ⟨s.nextId⟩)
      (long : request.host.any (·.size < allocation.size) = false)
      (access : b.access = request.access) (had : m.buffers.get? request.index = some old) :
      Created request m s (m.install request.index b,
        (s.allocated allocation request.host).next (.releaseBuffer old.handle))

/-- An allocation is refused, or makes one buffer. -/
theorem createBuffer_cases (s : Simulator) (context : ContextHandle) (flags : MemFlags)
    (size : Nat) (host : Option Bytes) (ext : Option ExtPtr) :
    (∃ status, ComputeApi.call (.createBuffer context flags size host ext) s = .error status s) ∨
    ∃ allocation : Allocation, host.any (·.size < allocation.size) = false ∧
      ComputeApi.call (.createBuffer context flags size host ext) s =
        .ok ⟨s.nextId⟩ (s.allocated allocation host) := by
  have call : ComputeApi.call (.createBuffer context flags size host ext) s =
    Simulator.createBuffer context flags size host ext s := rfl
  rw [call, Simulator.createBuffer_eq]
  repeat' split
  · exact .inl ⟨_, rfl⟩
  · exact .inl ⟨_, rfl⟩
  · exact .inl ⟨_, rfl⟩
  next long => exact .inr ⟨_, Bool.eq_false_iff.2 long, rfl⟩

/-- Asking for a buffer is refused, or makes one and frees the one it replaces. -/
theorem created_create (context : ContextHandle) (args : ArgumentTable) (request : BufferRequest)
    (m : BufferManager) (s : Simulator) :
    Created request m s (stateOf (create context args request (m, s))) := by
  rw [create_eq]
  dsimp only
  rw [ask_apply]
  rcases createBuffer_cases s context _ request.size request.host _ with
    ⟨status, refused⟩ | ⟨allocation, long, made⟩
  · rw [refused]
    exact .refused
  · rw [made]
    dsimp only
    cases had : m.buffers.get? request.index with
    | none => exact .added allocation rfl long rfl had
    | some old =>
      have freed : stateOf (ask (.releaseBuffer old.handle) (s.allocated allocation request.host)) =
        (s.allocated allocation request.host).next (.releaseBuffer old.handle) := stateOf_ask _ _
      have replaced := Created.replaced (b := ⟨⟨s.nextId⟩, request.size, request.access,
        .ofArgument (args.get? request.index)⟩) allocation rfl long rfl had
      rw [← freed] at replaced
      dsimp only
      cases ran : ask (.releaseBuffer old.handle) (s.allocated allocation request.host) <;>
        rw [ran] at replaced <;> exact replaced

end BufferManager

namespace Pipeline

variable {d : BoundDevice} {m : BufferManager} {p : Pipeline} {s : Simulator}

/-- A buffer that an argument is given anew. -/
theorem Good.installed (good : Good d m (p, s)) {b : ManagedBuffer} (new : b.handle = ⟨s.nextId⟩)
    {allocation : Allocation} {host : Option Bytes}
    (long : host.any (·.size < allocation.size) = false) (index : Nat) :
    Good d (m.install index b) (p, s.allocated allocation host) := by
  obtain ⟨ground, held⟩ := good
  have does : s.Does (.createBuffer ⟨0⟩ allocation.flags allocation.size host allocation.ext)
    (s.allocated allocation host) := .createBuffer ⟨0⟩ _ _ host _ long
  have retains := ground.numbered.retains does
  refine ⟨⟨ground.numbered.does does, ?_, ?_, ?_⟩, held.retained retains (by simp) ground.queue⟩
  · exact retains.hasQueue ground.queue
  · exact retains.hasKernel ground.kernel
  · exact ground.buffers.installed ground.numbered.buffers new rfl index

/-- A buffer that no argument has any more is freed. -/
theorem Good.freed (good : Good d m (p, s)) {handle : BufferHandle}
    (unused : ∀ index b, m.buffers.get? index = some b → b.handle ≠ handle) :
    Good d m (p, s.next (.releaseBuffer handle)) := by
  obtain ⟨ground, held⟩ := good
  have does := Simulator.does_next s (.releaseBuffer handle)
  have retains := ground.numbered.retains does
  refine ⟨⟨ground.numbered.does does, ?_, ?_, ?_⟩, held.retained retains (by simp) ground.queue⟩
  · exact retains.hasQueue ground.queue
  · exact retains.hasKernel ground.kernel
  · generalize s.next (.releaseBuffer handle) = t at does
    cases does with
    | nothing => exact ground.buffers
    | releaseBuffer => exact ground.buffers.freed unused rfl
    | submit loud => contradiction
    | stop loud => contradiction
    | start loud => contradiction

theorem preserves_create (context : ContextHandle) (args : ArgumentTable)
    (request : BufferRequest) :
    Preserves (fun ms : BufferManager × Simulator => Good d ms.1 (p, ms.2))
      (BufferManager.create context args request) := by
  rintro ⟨m, s⟩ good
  have created := BufferManager.created_create context args request m s
  generalize stateOf (BufferManager.create context args request (m, s)) = after at created
  cases created with
  | refused => exact good
  | added allocation new long access none => exact good.installed new long _
  | replaced allocation new long access had =>
    refine (good.installed new long _).freed ?_
    exact good.1.buffers.replaced good.1.numbered.buffers new had

end Pipeline

end FpgaHost
