import FpgaHost.Proofs.Session.Decisions

/-!
# Stages step by step

What the operations of a pipeline do on a simulator. The events that a pipeline holds are not given
back yet and none is held for two stages (`Held`), so giving them back never fails; what is left of
an operation is one submission, or the two starts of a finish.

Main statements: `write_of_held`, `execute_apply` and `finish_apply`, equations for the operations,
and `Held.submitted` and `Held.retained`, by which they keep what is held.
-/

namespace FpgaHost

open Steps Attempt

namespace Pipeline

variable {p : Pipeline} {s t : Simulator} {stage : Stage} {queue : QueueHandle}

/-! ### Events that are held -/

/-- The events that a pipeline holds are not given back, they say of profiling what their queue says
of it, and no two stages share one. -/
structure Held (p : Pipeline) (queue : QueueHandle) (s : Simulator) : Prop where
  /-- They are not given back. -/
  live : ∀ stage event, p.event stage = some event → (s.liveEvent? event).isSome
  /-- Their times may be asked for if the queue says so. -/
  profiled : ∀ stage event, p.event stage = some event →
    s.profilingOf event = (s.propertiesOf queue).map (·.profiling)
  /-- No two stages share one. -/
  distinct : ∀ stage other event, p.event stage = some event → p.event other = some event →
    stage = other

theorem held_of_none (none : ∀ stage, p.event stage = none) (queue : QueueHandle) (s : Simulator) :
    p.Held queue s where
  live stage event held := by simp [none] at held
  profiled stage event held := by simp [none] at held
  distinct stage other event held := by simp [none] at held

theorem Held.id_lt (held : p.Held queue s) (numbered : s.Numbered) {event : EventHandle}
    (there : p.event stage = some event) : event.id < s.nextId := by
  obtain ⟨r, live⟩ := Option.isSome_iff_exists.1 (held.live stage event there)
  exact numbered.events event (Table.contains_iff.2 ⟨r, (Option.filter_eq_some_iff.1 live).1⟩)

/-- A request that gives no event back keeps all of them held. -/
theorem Held.retained (held : p.Held queue s) {r : Request} (retains : s.Retains r t)
    (keeps : ∀ e, r ≠ .releaseEvent e) (there : s.queues.contains queue = true) :
    p.Held queue t where
  live stage e mine := retains.live (keeps e) (held.live stage e mine)
  profiled stage e mine := by
    rw [retains.events e (keeps e) (held.live stage e mine), retains.queues queue there]
    exact held.profiled stage e mine
  distinct := held.distinct

/-- Giving an event back keeps the others held. -/
theorem Held.released (held : p.Held queue s) {event : EventHandle}
    (mine : p.event stage = some event) :
    (p.withoutEvent stage).Held queue (s.eventReleased event) := by
  have other : ∀ j e, (p.withoutEvent stage).event j = some e → event ≠ e ∧ p.event j = some e := by
    intro j e there
    rw [event_withoutEvent] at there
    split at there
    · contradiction
    next ne =>
      refine ⟨?_, there⟩
      rintro rfl
      exact ne (held.distinct j stage event there mine)
  have same : ∀ e, event ≠ e → (s.eventReleased event).profilingOf e = s.profilingOf e :=
    fun e => Simulator.profilingOf_eventReleased
  refine ⟨fun j e there => ?_, fun j e there => ?_, fun j k e hj hk => ?_⟩
  · obtain ⟨ne, there⟩ := other j e there
    have live := held.live j e there
    rw [← Option.isSome_map (f := (·.profiling))] at live ⊢
    exact (congrArg Option.isSome (same e ne)).trans live
  · obtain ⟨ne, there⟩ := other j e there
    rw [same e ne]
    exact held.profiled j e there
  · exact held.distinct j k e (other j e hj).2 (other k e hk).2

/-- A stage that is submitted holds the event of its command, which is a new one. -/
theorem Held.submitted (held : p.Held queue s) (numbered : s.Numbered) {q : Queue}
    (found : s.queues.get? queue = some q) (stage : Stage) (bytes : Nat) (command : Command)
    (wait : List EventHandle) :
    (p.submitted stage { event := some ⟨s.nextId⟩, bytes }).Held queue
      (s.submitted queue q.properties.profiling command wait) := by
  have does : s.Does (.enqueueTask queue ⟨0⟩ wait)
    (s.submitted queue q.properties.profiling command wait) := .submit rfl queue _ command wait
  have kept := held.retained (numbered.retains does) (by simp) (Table.contains_iff.2 ⟨q, found⟩)
  have properties : (s.submitted queue q.properties.profiling command wait).propertiesOf queue =
      some q.properties := by
    rw [(numbered.retains does).queues queue (Table.contains_iff.2 ⟨q, found⟩),
      Simulator.propertiesOf, found, Option.map_some]
  have new : (s.submitted queue q.properties.profiling command wait).liveEvent? ⟨s.nextId⟩ =
      some { command, wait, profiling := q.properties.profiling,
             queued := s.clock + enqueueTime } := by
    rw [Simulator.liveEvent?, Simulator.submitted, Table.get?_insert_self]
    rfl
  have older : ∀ i, p.event i = some ⟨s.nextId⟩ → False := fun i there =>
    Nat.lt_irrefl _ (held.id_lt numbered there)
  refine ⟨fun j e there => ?_, fun j e there => ?_, fun j k e hj hk => ?_⟩
  · rw [event_submitted] at there
    split at there
    · obtain rfl := Option.some.inj there
      rw [new]
      rfl
    · split at there
      · contradiction
      · exact kept.live j e there
  · rw [event_submitted] at there
    split at there
    · obtain rfl := Option.some.inj there
      rw [Simulator.profilingOf, new, properties]
      rfl
    · split at there
      · contradiction
      · exact kept.profiled j e there
  · rw [event_submitted] at hj hk
    split at hj <;> split at hk
    next same same' => rw [same, same']
    · split at hk
      · contradiction
      · exact (older k (hk.trans hj.symm)).elim
    · split at hj
      · contradiction
      · exact (older j (hj.trans hk.symm)).elim
    · split at hj
      · contradiction
      next ne =>
        rw [if_neg ne] at hk
        exact held.distinct j k e hj hk

/-- A stage that is skipped holds no event. -/
theorem Held.skipped (held : p.Held queue s) (stage : Stage) (bytes : Nat) :
    (p.submitted stage { event := none, bytes }).Held queue s := by
  have older : ∀ j e, (p.submitted stage { event := none, bytes }).event j = some e →
      p.event j = some e := by
    intro j e there
    rw [event_submitted] at there
    repeat' split at there
    · contradiction
    · contradiction
    · exact there
  refine ⟨fun j e there => held.live j e (older j e there), fun j e there => ?_, ?_⟩
  · exact held.profiled j e (older j e there)
  · exact fun j k e hj hk => held.distinct j k e (older j e hj) (older k e hk)

/-! ### Giving events back -/

/-- Some events were given back one after the other. -/
inductive GaveBack (s : Simulator) : Simulator → Prop
  /-- None. -/
  | none : GaveBack s s
  /-- One more. -/
  | more {t : Simulator} (before : GaveBack s t) (event : EventHandle) :
      GaveBack s (t.eventReleased event)

theorem GaveBack.queues (gave : GaveBack s t) : t.queues = s.queues := by
  induction gave with
  | none => rfl
  | more before event ih => exact ih

/-- An event that is held can be given back. -/
theorem release_of_held {u : Simulator} (held : p.Held queue s) (before : GaveBack u s)
    (stage : Stage) : ∃ t, release stage (p, s) = .ok () (p.withoutEvent stage, t) ∧
      (p.withoutEvent stage).Held queue t ∧ GaveBack u t := by
  rw [release_apply]
  cases mine : p.event stage with
  | none =>
    rw [withoutEvent_of_none mine]
    exact ⟨s, rfl, held, before⟩
  | some event =>
    obtain ⟨r, live⟩ := Option.isSome_iff_exists.1 (held.live stage event mine)
    refine ⟨s.eventReleased event, ?_, held.released mine, before.more event⟩
    have answered : ComputeApi.call (.releaseEvent event) s = .ok () (s.eventReleased event) := by
      simp only [ComputeApi.call, Simulator.releaseEvent_eq, live]
    dsimp only
    rw [onSecond_apply, ask_apply, answered]

theorem releaseHeld_of_held (held : p.Held queue s) :
    ∃ t, releaseHeld (p, s) = .ok () (p.emptied, t) ∧ GaveBack s t := by
  obtain ⟨t, load, held, before⟩ := release_of_held held .none .load
  obtain ⟨u, compute, held, before⟩ := release_of_held held before .compute
  obtain ⟨v, store, -, before⟩ := release_of_held held before .store
  refine ⟨v, ?_, before⟩
  rw [releaseHeld, bind_of_ok load, bind_of_ok compute, store]
  rfl

theorem releaseEvents_of_held (held : p.Held queue s) :
    ∃ t, releaseEvents (p, s) = (p.emptied, t) ∧ GaveBack s t := by
  obtain ⟨t, load, held, before⟩ := release_of_held held .none .load
  obtain ⟨u, compute, held, before⟩ := release_of_held held before .compute
  obtain ⟨v, store, -, before⟩ := release_of_held held before .store
  refine ⟨v, ?_, before⟩
  rw [releaseEvents_eq, load, stateOf_ok, compute, stateOf_ok, store]
  rfl

/-! ### Operations -/

theorem submitMigration_apply (queue : QueueHandle) (buffers : List BufferHandle)
    (direction : Direction) (wait : List EventHandle) (s : Simulator) :
    submitMigration queue buffers direction wait s =
      if buffers.isEmpty then .ok none s
      else match Simulator.enqueueMigrate queue buffers direction wait s with
        | .ok event t => .ok (some event) t
        | .error status t => .error (.call .enqueueMigrate status) t := by
  have call : ComputeApi.call (.enqueueMigrate queue buffers direction wait) s =
    Simulator.enqueueMigrate queue buffers direction wait s := rfl
  rw [submitMigration_eq, ask_apply, call]
  cases Simulator.enqueueMigrate queue buffers direction wait s <;> rfl

theorem write_refused (queue : QueueHandle) (m : BufferManager) (p : Pipeline) (s : Simulator)
    (late : Stage.load.startsFrom.contains p.state = false) :
    write queue m (p, s) = .error (.outOfOrder .load p.state) (p, s) := by
  rw [write_eq, late]
  rfl

/-- The load stage gives back all that is held and submits one migration. -/
theorem write_of_held (held : p.Held queue s) (m : BufferManager)
    (ready : Stage.load.startsFrom.contains p.state = true) :
    ∃ t, GaveBack s t ∧ write queue m (p, s) =
      match submitMigration queue m.loadHandles .toDevice [] t with
        | .ok event u => .ok event (p.submitted .load { event, bytes := m.loadBytes }, u)
        | .error e u => .error e (p.emptied, u) := by
  obtain ⟨t, gave, before⟩ := releaseHeld_of_held held
  refine ⟨t, before, ?_⟩
  rw [write_eq, if_pos ready, gave]
  dsimp only
  cases submitMigration queue m.loadHandles .toDevice [] t <;> rfl

theorem execute_apply (queue : QueueHandle) (kernel : KernelHandle) (p : Pipeline) (s : Simulator) :
    execute queue kernel (p, s) =
      if Stage.compute.startsFrom.contains p.state then
        match Simulator.enqueueTask queue kernel p.load.event.toList s with
          | .ok event t => .ok event (p.submitted .compute { event := some event }, t)
          | .error status t => .error (.call .enqueueTask status) (p, t)
      else .error (.outOfOrder .compute p.state) (p, s) := by
  have call : ComputeApi.call (.enqueueTask queue kernel p.load.event.toList) s =
    Simulator.enqueueTask queue kernel p.load.event.toList s := rfl
  rw [execute_eq, ask_apply, call]
  cases Simulator.enqueueTask queue kernel p.load.event.toList s <;> rfl

theorem finish_apply (queue : QueueHandle) (p : Pipeline) (s : Simulator) :
    finish queue (p, s) = match Simulator.runPending queue s with
      | .error status t => .error (.call .flush status) (p, t)
      | .ok _ t =>
        match Simulator.finish queue t with
        | .error status u => .error (.call .finish status) (p, u)
        | .ok _ u => .ok () ({ p with state := p.state.finished }, u) := by
  have flush : ComputeApi.call (.flush queue) s = Simulator.runPending queue s := rfl
  rw [finish_eq, ask_apply, flush]
  cases Simulator.runPending queue s with
  | error status t => rfl
  | ok _ t =>
    have wait : ComputeApi.call (.finish queue) t = Simulator.finish queue t := rfl
    dsimp only
    rw [ask_apply, wait]
    cases Simulator.finish queue t <;> rfl

end Pipeline

end FpgaHost
