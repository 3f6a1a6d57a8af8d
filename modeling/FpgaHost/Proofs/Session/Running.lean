import FpgaHost.Proofs.Session.Sound
import FpgaHost.Proofs.Simulator.Prospect

/-!
# Pipelines with work under way

A pipeline runs (`Running`) while all that is pending on its queue can be carried out, and the
events that the next stage will wait for are among what is pending or has ended. Then no stage that
is in order fails: it adds the effect of its command to the memory in prospect. Nor does a finish,
wherever in a cycle it stands: it makes the memory in prospect the present one.

Main statements: `Running.write`, `Running.execute`, `Running.read` and `Running.finish`.
-/

namespace FpgaHost

open Steps Attempt

namespace Simulator

variable {s : Simulator} {queue : QueueHandle} {wait : List EventHandle}

/-- A submission is accepted if the queue and all that it waits for are there. -/
theorem submit_of_live {q : Queue} (found : s.queues.get? queue = some q) (command : Command)
    (live : ∀ w ∈ wait, (s.liveEvent? w).isSome) :
    submit queue command wait s =
      .ok ⟨s.nextId⟩ (s.submitted queue q.properties.profiling command wait) := by
  have fine : (wait.any fun e => (s.liveEvent? e).isNone) = false := by
    rw [List.any_eq_false]
    intro w mem
    rw [Option.isNone_iff_eq_none]
    exact Option.isSome_iff_ne_none.1 (live w mem)
  rw [submit_eq, fine, found]
  rfl

theorem enqueueMigrate_of_ready {buffers : List BufferHandle} (some : buffers.isEmpty = false)
    (there : ∀ b ∈ buffers, s.buffers.contains b = true) (direction : Direction) :
    enqueueMigrate queue buffers direction wait s =
      submit queue (.migrate buffers direction) wait s := by
  have fine : (buffers.any fun b => !s.buffers.contains b) = false := by
    rw [List.any_eq_false]
    intro b mem
    simp [there b mem]
  rw [enqueueMigrate_eq, some, fine]
  rfl

theorem enqueueTask_of_ready {kernel : KernelHandle} (there : s.kernels.contains kernel = true) :
    enqueueTask queue kernel wait s = submit queue (.task kernel) wait s := by
  rw [enqueueTask_eq, there]
  rfl

end Simulator

namespace Pipeline

variable {d : BoundDevice} {m : BufferManager} {acts : Command → Memory → Memory}
  {memory : Memory} {p : Pipeline} {s t : Simulator}

/-- The events that a pipeline holds have ended or are pending. -/
def Awaited (p : Pipeline) (queue : QueueHandle) (s : Simulator) : Prop :=
  ∀ stage event, p.event stage = some event → s.Ended event ∨ event ∈ s.pendingOf queue

/-- The events that a pipeline holds have ended. -/
def Over (p : Pipeline) (s : Simulator) : Prop :=
  ∀ stage event, p.event stage = some event → s.Ended event

/-- A pipeline whose work is under way: the device, the buffers and what commands do are the same
all the time, and once all that is pending has run it will have left a memory. -/
structure Running (d : BoundDevice) (m : BufferManager) (acts : Command → Memory → Memory)
    (memory : Memory) (ps : Pipeline × Simulator) : Prop where
  /-- What the pipeline stands on is there. -/
  good : Good d m ps
  /-- All that is pending can run and will leave the memory. -/
  underway : ps.2.Underway d.queue memory
  /-- Within a cycle, what the next stage waits for will have ended. -/
  awaited : Stage.load.startsFrom.contains ps.1.state = false → ps.1.Awaited d.queue ps.2
  /-- What commands do. -/
  acts : ps.2.effect = acts

/-- A pipeline that runs, and whose events have all ended or are pending. -/
structure Staged (d : BoundDevice) (m : BufferManager) (acts : Command → Memory → Memory)
    (memory : Memory) (ps : Pipeline × Simulator) : Prop where
  /-- It runs. -/
  running : Running d m acts memory ps
  /-- Its events have ended or are pending. -/
  awaited : ps.1.Awaited d.queue ps.2

namespace Running

/-- Giving events back keeps all that is pending. -/
theorem gaveBack (running : Running d m acts memory (p, s)) (gave : GaveBack s t) :
    t.Underway d.queue memory ∧ t.effect = acts := by
  induction gave with
  | none => exact ⟨running.underway, running.acts⟩
  | more before event ih => exact ⟨ih.1.released event, ih.2⟩

/-- A stage whose command is accepted adds its effect to the memory in prospect. -/
theorem accepted (running : Running d m acts memory (p, s)) (awaited : p.Awaited d.queue s)
    (stage : Stage) (bytes : Nat) {command : Command} {wait : List EventHandle}
    (ready : s.Ready command) (mine : ∀ w ∈ wait, ∃ other, p.event other = some w) :
    ∃ event t, Simulator.submit d.queue command wait s = .ok event t ∧
      Staged d m acts (acts command memory)
        (p.submitted stage { event := some event, bytes }, t) := by
  have good := running.good
  obtain ⟨⟨ground, held⟩, underway, -, rfl⟩ := running
  have live : ∀ w ∈ wait, (s.liveEvent? w).isSome := by
    intro w mem
    obtain ⟨other, event⟩ := mine w mem
    exact held.live other w event
  have waits : ∀ w ∈ wait, s.Ended w ∨ w ∈ s.pendingOf d.queue := by
    intro w mem
    obtain ⟨other, event⟩ := mine w mem
    exact awaited other w event
  obtain ⟨q, found⟩ := Table.contains_iff.1 ground.queue
  have later : (p.submitted stage { event := some ⟨s.nextId⟩, bytes }).Awaited d.queue
      (s.submitted d.queue q.properties.profiling command wait) := by
    intro other event there
    rw [event_submitted] at there
    rw [Simulator.pendingOf_submitted found, List.mem_append, List.mem_singleton]
    split at there
    · exact .inr (.inr (Option.some.inj there).symm)
    · split at there
      · contradiction
      · rcases awaited other event there with ended | pending
        · exact .inl (Simulator.ended_submitted ground.numbered ended)
        · exact .inr (.inl pending)
  refine ⟨_, _, Simulator.submit_of_live found command live, ⟨?_, ?_, fun _ => later, rfl⟩, later⟩
  · exact good.submitted found stage bytes command wait
  · exact underway.submitted ground.numbered ready waits

/-- A stage without anything to move changes nothing of what is in prospect. -/
theorem skipped (running : Running d m acts memory (p, s)) (awaited : p.Awaited d.queue s)
    (stage : Stage) (bytes : Nat) :
    Staged d m acts memory (p.submitted stage { event := none, bytes }, s) := by
  obtain ⟨⟨ground, held⟩, underway, -, acts⟩ := running
  have later : (p.submitted stage { event := none, bytes }).Awaited d.queue s := by
    intro other event there
    rw [event_submitted] at there
    repeat' split at there
    · contradiction
    · contradiction
    · exact awaited other event there
  exact ⟨⟨⟨ground, held.skipped stage bytes⟩, underway, fun _ => later, acts⟩, later⟩

/-- A migration between stages. -/
theorem migrated (running : Running d m acts memory (p, s)) (awaited : p.Awaited d.queue s)
    (stage : Stage) (bytes : Nat) (direction : Direction) {buffers : List BufferHandle}
    {wait : List EventHandle} (there : ∀ b ∈ buffers, s.buffers.contains b = true)
    (mine : ∀ w ∈ wait, ∃ other, p.event other = some w) :
    ∃ event t, submitMigration d.queue buffers direction wait s = .ok event t ∧
      Staged d m acts (acts (.migrate buffers direction) memory)
        (p.submitted stage { event, bytes }, t) := by
  rw [submitMigration_apply]
  cases some : buffers.isEmpty with
  | true =>
    obtain rfl := List.isEmpty_iff.1 some
    have nothing : acts (.migrate [] direction) memory = memory := by
      rw [← running.acts]
      rfl
    rw [nothing]
    exact ⟨none, s, rfl, running.skipped awaited stage bytes⟩
  | false =>
    have ready : s.Ready (.migrate buffers direction) := there
    obtain ⟨event, t, submitted, later⟩ := running.accepted awaited stage bytes ready mine
    rw [Simulator.enqueueMigrate_of_ready some there, submitted]
    exact ⟨_, t, rfl, later⟩

/-! ### Stages -/

theorem write (running : Running d m acts memory (p, s))
    (ready : Stage.load.startsFrom.contains p.state = true) :
    ∃ event q t, Pipeline.write d.queue m (p, s) = .ok event (q, t) ∧ q.state = .loaded ∧
      Staged d m acts (acts (.migrate m.loadHandles .toDevice) memory) (q, t) := by
  obtain ⟨t, gave, wrote⟩ := write_of_held running.good.2 m ready
  obtain ⟨underway, same⟩ := running.gaveBack gave
  have ground := running.good.1.gaveBack gave
  have awaited : p.emptied.Awaited d.queue t := by
    intro stage event there
    rw [event_emptied] at there
    contradiction
  have emptied : Running d m acts memory (p.emptied, t) :=
    ⟨⟨ground, held_of_none p.event_emptied d.queue t⟩, underway, fun _ => awaited, same⟩
  have there : ∀ b ∈ m.loadHandles, t.buffers.contains b = true := ground.buffers.members m.load
  obtain ⟨event, u, submitted, later⟩ := emptied.migrated awaited .load m.loadBytes .toDevice
    there fun w mem => absurd mem List.not_mem_nil
  rw [wrote, submitted]
  exact ⟨event, _, u, rfl, rfl, later⟩

theorem execute (running : Running d m acts memory (p, s)) (ready : p.state = .loaded) :
    ∃ event q t, Pipeline.execute d.queue d.kernel (p, s) = .ok event (q, t) ∧
      q.state = .computed ∧ Staged d m acts (acts (.task d.kernel) memory) (q, t) := by
  have kernel : s.Ready (.task d.kernel) := running.good.1.kernel
  have awaited := running.awaited (by rw [ready]; rfl)
  have mine : ∀ w ∈ p.load.event.toList, ∃ other, p.event other = some w := fun w mem =>
    ⟨.load, Option.mem_toList.1 mem⟩
  obtain ⟨event, t, submitted, later⟩ := running.accepted awaited .compute 0 kernel mine
  rw [execute_apply, ready, Simulator.enqueueTask_of_ready kernel, submitted]
  exact ⟨event, _, t, rfl, rfl, later⟩

theorem read (running : Running d m acts memory (p, s)) (ready : p.state = .computed) :
    ∃ event q t, Pipeline.read d.queue m (p, s) = .ok event (q, t) ∧ q.state = .stored ∧
      Staged d m acts (acts (.migrate m.storeHandles .toHost) memory) (q, t) := by
  have there : ∀ b ∈ m.storeHandles, s.buffers.contains b = true :=
    running.good.1.buffers.members m.store
  have awaited := running.awaited (by rw [ready]; rfl)
  have mine : ∀ w ∈ p.compute.event.toList, ∃ other, p.event other = some w := fun w mem =>
    ⟨.compute, Option.mem_toList.1 mem⟩
  obtain ⟨event, t, submitted, later⟩ := running.migrated awaited .store m.storeBytes .toHost
    there mine
  rw [read_eq, ready, submitted]
  exact ⟨event, _, t, rfl, rfl, later⟩

/-- A finish succeeds at every point of a cycle and leaves the memory that was in prospect. -/
theorem finish (running : Running d m acts memory (p, s)) :
    ∃ q t, Pipeline.finish d.queue (p, s) = .ok () (q, t) ∧ q.state = p.state.finished ∧
      Running d m acts memory (q, t) ∧ t.memory = memory ∧ t.pendingOf d.queue = [] ∧
      (p.Awaited d.queue s → q.Over t) := by
  obtain ⟨t, flushed, started⟩ := running.underway.started
  obtain ⟨u, waited, finished⟩ := started.underway.finished
  have ran : Pipeline.finish d.queue (p, s) = .ok () ({ p with state := p.state.finished }, u) := by
    rw [finish_apply, flushed]
    dsimp only
    rw [waited]
  have good := preserves_finish d.queue (p, s) running.good
  rw [ran] at good
  have past : p.Awaited d.queue s → Over { p with state := p.state.finished } u := by
    intro awaited stage event there
    have live := running.good.2.live stage event there
    have ended := started.ended event live (awaited stage event there)
    exact finished.ended event (started.live event live) (.inl ended)
  refine ⟨_, u, ran, rfl, ⟨good, finished.underway, ?_, ?_⟩, ?_, finished.idle, past⟩
  · intro within stage event there
    have before : Stage.load.startsFrom.contains p.state = false := by
      revert within
      dsimp only
      cases p.state <;> decide
    exact .inl (past (running.awaited before) stage event there)
  · rw [← running.acts]
    exact (Simulator.effect_congr finished.kernels finished.hostKernels).trans
      (Simulator.effect_congr started.kernels started.hostKernels)
  · exact finished.underway.memory_of_idle finished.idle

end Running

end Pipeline

end FpgaHost
