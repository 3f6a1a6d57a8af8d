import FpgaHost.Proofs.Session.Holding
import FpgaHost.Proofs.Session.Reachable
import FpgaHost.Proofs.Session.Start
import FpgaHost.Proofs.Simulator.Completion
import FpgaHost.Proofs.Simulator.Remains

/-!
# What a closed session leaves

A session that is alone on a simulator gives back everything when it is closed: no buffer and no
context is left, and no event that is not given back. The records of its events go with them if
nothing is pending. If the session is closed with commands submitted and not finished, their records
stay: a pending command keeps its record, and giving the context back takes no queue with it.
Records that a failed start has left behind go when the next event is given back, and stay if the
session holds none.

Main statement: `left_by_close`; `records_outlive_close` is an instance where records stay.
-/

namespace FpgaHost

open Steps Attempt

/-- There are no contexts, no buffers and no records of events. -/
structure Simulator.Clear (s : Simulator) : Prop where
  /-- There are no contexts. -/
  contexts : s.contextCount = 0
  /-- There are no buffers. -/
  buffers : s.bufferCount = 0
  /-- There are no records of events. -/
  events : s.eventCount = 0

theorem Pipeline.releaseEvents_of_none {σ : Type} [ComputeApi σ] {p : Pipeline}
    (none : ∀ stage, p.event stage = none) (s : σ) : releaseEvents (p, s) = (p, s) := by
  have released : ∀ stage, stateOf (release stage (p, s)) = (p, s) := by
    intro stage
    rw [release_apply, none]
    rfl
  rw [releaseEvents_eq, released, released, released]

/-- Giving events back leaves a record of each pending command. -/
theorem Pipeline.recorded_of_gaveBack {s t : Simulator} (recorded : s.Recorded)
    (gave : GaveBack s t) : t.Recorded := by
  induction gave with
  | none => exact recorded
  | more before event ih => exact ih.does (.releaseEvent event)

namespace Session

variable {s t : Session Simulator}

/-! ### Other queues -/

/-- As a session begins nothing is pending where nothing was. -/
theorem idle_elsewhere_of_start {backend : Simulator} {image : Image} {config : SessionConfig}
    (started : start image config backend = .ok s) {queue : QueueHandle}
    (idle : backend.pendingOf queue = []) : s.backend.pendingOf queue = [] :=
  kept_of_start (P := fun b => b.pendingOf queue = []) started
    (fun _ r reaches idle => Simulator.idle_next r (by simp [reaches]) idle) idle

/-- No operation puts a command into another queue. -/
theorem preserves_idle_elsewhere (operation : Operation) :
    Preserves (fun s : Session Simulator =>
      ∀ queue, queue ≠ s.device.queue → s.backend.pendingOf queue = []) operation.perform :=
  preserves_of_requests (fun r _ only idle queue other =>
    Simulator.idle_next r (fun here => other (only queue here)) (idle queue other))
    (fun _ _ _ idle => idle) operation

/-! ### A session that is alone -/

/-- What was lent on the simulator of a session is held by it, and commands are pending on its queue
only. -/
structure Alone (s : Session Simulator) : Prop where
  /-- Some history leads to it. -/
  reachable : s.Reachable
  /-- What was lent is held. -/
  holds : s.Holds Simulator.Covered
  /-- Nothing is pending elsewhere. -/
  elsewhere : ∀ queue, queue ≠ s.device.queue → s.backend.pendingOf queue = []

/-- A session that begins on a simulator without anything is alone on it. -/
theorem alone_of_start {backend : Simulator} {image : Image} {config : SessionConfig}
    (reachable : backend.Reachable) (clear : backend.Clear)
    (started : start image config backend = .ok s) : s.Alone where
  reachable := .start reachable started
  holds := by
    have covered := Simulator.covered_nil clear.contexts clear.buffers clear.events
    have begun := Simulator.accounting_covered.holds_start covered image config
    rwa [started] at begun
  elsewhere queue _ := idle_elsewhere_of_start started (reachable.recorded.idle clear.events queue)

/-- Every operation leaves a session alone, whether it succeeds or not. -/
theorem Alone.perform (alone : s.Alone) (operation : Operation) :
    (stateOf (operation.perform s)).Alone where
  reachable := alone.reachable.perform operation
  holds := Simulator.accounting_covered.holds_perform operation s alone.holds
  elsewhere := preserves_idle_elsewhere operation s alone.elsewhere

theorem Alone.performAll (alone : s.Alone) (operations : List Operation) :
    (s.performAll operations).Alone :=
  holds_performAll (P := Alone) (fun operation _ alone => alone.perform operation) alone operations

/-- The events that are not given back are those that the pipeline holds. -/
theorem Alone.event_of_live (alone : s.Alone) {event : EventHandle}
    (live : (s.backend.liveEvent? event).isSome) : ∃ stage, s.pipeline.event stage = some event := by
  exact stage_of_event_loans (alone.holds.2 (.event event) live)

/-! ### Closing -/

theorem events_of_release (buffers : List ManagedBuffer)
    (events : Table EventHandle EventRecord) :
    Preserves (fun s : Simulator => s.events = events) (BufferManager.release buffers) := by
  have kept : ∀ (b : ManagedBuffer) (s : Simulator), s.events = events →
      (Request.after (.releaseBuffer b.handle) s).events = events := by
    intro b s same
    simp only [Request.after, ComputeApi.call, Simulator.releaseBuffer_eq]
    cases s.buffers.get? b.handle <;> exact same
  induction buffers with
  | nil => exact .pure 0
  | cons b rest ih =>
    refine (preserves_tryCall (kept b)).bind fun outcome => ?_
    cases outcome with
    | ok _ => exact ih.bind fun _ => .pure _
    | error status => exact ih

/-- Only giving events back changes the records of events. -/
theorem events_of_close (s : Session Simulator) :
    s.close.events = (Pipeline.releaseEvents (s.pipeline, s.backend)).2.events := by
  have buffers : ∀ b : Simulator,
      (Attempt.after BufferManager.releaseAll (s.buffers, b)).2.events = b.events := by
    intro b
    have forgotten : BufferManager.releaseAll (s.buffers, b) =
      onSecond (BufferManager.release s.buffers.buffers.values) (s.buffers.cleared, b) := rfl
    rw [after_eq, forgotten, stateOf_onSecond]
    exact events_of_release s.buffers.buffers.values b.events b rfl
  have context : ∀ b : Simulator,
      (Attempt.after (BoundDevice.giveBack s.device.context) b).events = b.events := by
    intro b
    rw [after_eq, BoundDevice.giveBack, stateOf_discard, stateOf_tryCall]
    simp only [Request.after, ComputeApi.call, Simulator.releaseContext_eq]
    split <;> rfl
  rw [close]
  dsimp only
  rw [context, buffers]

/-- Which records a session leaves that is closed. -/
theorem Alone.eventCount_close (alone : s.Alone) :
    s.close.eventCount = 0 ↔ s.backend.eventCount = 0 ∨
      (∃ stage, (s.pipeline.event stage).isSome) ∧
        ∀ queue, s.backend.pendingOf queue = [] := by
  obtain ⟨-, held⟩ := sound_of_reachable alone.reachable
  obtain ⟨t, released, gave⟩ := Pipeline.releaseEvents_of_held held
  have events : s.close.events = t.events := by rw [events_of_close, released]
  have count : s.close.eventCount = t.eventCount := by
    rw [Simulator.eventCount, events, Simulator.eventCount]
  have recorded := alone.reachable.backend.recorded
  have none : ∀ e, t.liveEvent? e = none := by
    intro e
    have gone := Simulator.liveEvent?_of_covered
      (Simulator.accounting_covered.nothing_of_close alone.holds) e
    rwa [Simulator.liveEvent?, events, ← Simulator.liveEvent?] at gone
  rw [count]
  constructor
  · intro zero
    by_cases some : ∃ stage, (s.pipeline.event stage).isSome
    · refine .inr ⟨some, fun queue => ?_⟩
      rw [← Simulator.pendingOf_congr (congrArg (·.get? queue) gave.queues)]
      exact (Pipeline.recorded_of_gaveBack recorded gave).idle zero queue
    · have empty : ∀ stage, s.pipeline.event stage = Option.none := fun stage =>
        Option.not_isSome_iff_eq_none.1 fun held => some ⟨stage, held⟩
      rw [Pipeline.releaseEvents_of_none empty] at released
      obtain rfl : s.backend = t := (Prod.mk.inj released).2
      exact .inl zero
  · intro h
    have idle : ∀ queue, s.backend.pendingOf queue = [] := by
      rcases h with zero | ⟨-, idle⟩
      · exact recorded.idle zero
      · exact idle
    cases gave with
    | more before event =>
      refine Simulator.eventCount_eventReleased (fun queue => ?_) none
      rw [Simulator.pendingOf_congr (congrArg (·.get? queue) before.queues), idle]
    | none =>
      rcases h with zero | ⟨⟨stage, some⟩, -⟩
      · exact zero
      · obtain ⟨event, mine⟩ := Option.isSome_iff_exists.1 some
        have live := held.live stage event mine
        rw [none event] at live
        contradiction

/-! ### Finishing -/

/-- A finish that succeeds finishes the queue of the session. -/
theorem finish_ok (finished : finish s = .ok () t) :
    t.device = s.device ∧ ∃ b, Simulator.finish s.device.queue b = .ok () t.backend := by
  have session : finish s = onPipeline (Pipeline.finish s.device.queue) s := rfl
  rw [session, onPipeline, within_apply, Pipeline.finish_apply] at finished
  cases flushed : Simulator.runPending s.device.queue s.backend with
  | error status u =>
    rw [flushed] at finished
    contradiction
  | ok _ u =>
    rw [flushed] at finished
    dsimp only at finished
    cases waited : Simulator.finish s.device.queue u with
    | error status v =>
      rw [waited] at finished
      contradiction
    | ok _ v =>
      rw [waited] at finished
      cases finished
      exact ⟨rfl, u, waited⟩

/-- After a finish nothing is pending if nothing is pending elsewhere. -/
theorem idle_of_finish_ok (finished : finish s = .ok () t)
    (elsewhere : ∀ queue, queue ≠ t.device.queue → t.backend.pendingOf queue = [])
    (queue : QueueHandle) : t.backend.pendingOf queue = [] := by
  obtain ⟨device, b, waited⟩ := finish_ok finished
  by_cases mine : queue = t.device.queue
  · obtain ⟨q, found, none⟩ := Trace.idle_of_finish waited
    rw [mine, device, Simulator.pendingOf, found]
    exact none
  · exact elsewhere queue mine

/-- A session that is alone leaves nothing when it is closed after a finish. -/
theorem Alone.eventCount_close_of_finish (alone : s.Alone) (finished : finish s = .ok () t) :
    t.close.eventCount = 0 := by
  have later : t.Alone := by
    have perform := alone.perform .finish
    rwa [Operation.perform, finished] at perform
  obtain ⟨-, b, waited⟩ := finish_ok finished
  have idle := idle_of_finish_ok finished later.elsewhere
  rw [later.eventCount_close]
  by_cases some : ∃ stage, (t.pipeline.event stage).isSome
  · exact .inr ⟨some, idle⟩
  · refine .inl (Simulator.eventCount_of_finish waited idle fun e => ?_)
    rw [← Option.not_isSome_iff_eq_none]
    intro live
    obtain ⟨stage, held⟩ := later.event_of_live live
    exact some ⟨stage, Option.isSome_iff_exists.2 ⟨e, held⟩⟩

/-! ### What is left -/

/-- What a session leaves that is closed. -/
structure LeftByClose (s : Session Simulator) : Prop where
  /-- No context. -/
  contexts : s.close.contextCount = 0
  /-- No buffer. -/
  buffers : s.close.bufferCount = 0
  /-- No event that is not given back. -/
  events : ∀ event, s.close.liveEvent? event = none
  /-- Records of events, unless there were none before or the session holds an event and nothing is
  pending. -/
  records : s.close.eventCount = 0 ↔ s.backend.eventCount = 0 ∨
    (∃ stage, (s.pipeline.event stage).isSome) ∧ ∀ queue, s.backend.pendingOf queue = []
  /-- Nothing at all if it is finished before. -/
  finished : ∀ t, finish s = .ok () t → t.close.Clear

/-- What is left when a session that began on a simulator without anything is closed after any
operations. -/
theorem left_by_close {backend : Simulator} {image : Image} {config : SessionConfig}
    (reachable : backend.Reachable) (clear : backend.Clear)
    (started : start image config backend = .ok s) (operations : List Operation) :
    (s.performAll operations).LeftByClose := by
  have alone := (alone_of_start reachable clear started).performAll operations
  generalize s.performAll operations = u at alone
  have covered : ∀ {v : Session Simulator}, v.Alone → v.close.Covered [] := fun alone =>
    Simulator.accounting_covered.nothing_of_close alone.holds
  refine ⟨Simulator.contextCount_of_covered (covered alone),
    Simulator.bufferCount_of_covered (covered alone),
    Simulator.liveEvent?_of_covered (covered alone), alone.eventCount_close, ?_⟩
  intro t finished
  have later : t.Alone := by
    have perform := alone.perform .finish
    rwa [Operation.perform, finished] at perform
  exact ⟨Simulator.contextCount_of_covered (covered later),
    Simulator.bufferCount_of_covered (covered later), alone.eventCount_close_of_finish finished⟩

/-- A buffer for the only argument, and a load stage that is not finished. -/
def unfinished : List Operation := [.createBuffer ⟨0, .readWrite, 64, none, .none⟩, .write]

theorem left_by_close_unfinished :
    (oneArgument.host []).Reachable ∧ (oneArgument.host []).Clear ∧
      ((begun oneArgument [] {}).performAll unfinished).LeftByClose :=
  have reachable := .start ⟨rfl, rfl, rfl, rfl, rfl, rfl, rfl⟩
  have clear : (oneArgument.host []).Clear := ⟨rfl, rfl, rfl⟩
  ⟨reachable, clear, left_by_close reachable clear (start_oneArgument []) unfinished⟩

/-- A session that is closed can leave records: that of the load stage, which is pending. -/
theorem records_outlive_close :
    ¬ ∀ (backend : Simulator) (image : Image) (config : SessionConfig) (s : Session Simulator)
      (operations : List Operation), backend.Reachable → backend.Clear →
      start image config backend = .ok s → (s.performAll operations).close.Clear := by
  intro always
  have clear := always (oneArgument.host []) oneArgument {} _ unfinished
    (.start ⟨rfl, rfl, rfl, rfl, rfl, rfl, rfl⟩) ⟨rfl, rfl, rfl⟩ (start_oneArgument [])
  have one : ((begun oneArgument [] {}).performAll unfinished).close.eventCount = 1 := rfl
  rw [clear.events] at one
  contradiction

end Session

end FpgaHost
