import FpgaHost.Proofs.Session.Measured
import FpgaHost.Proofs.Session.Teardown

/-!
# How many records a session keeps

A session that began on a simulator without records of events keeps few of them, however many cycles
it has run and whether or not they overlapped. While commands are pending the events of earlier
cycles may still have records, since a cycle that begins gives back the events of the one before
without waiting for it. A finish that succeeds drops all of these: after it the events with records
are those that the stages of the pipeline hold, at most one each. Other contexts, buffers and queues
may be there all along, and it does not matter what has failed in between.

Main statement: `retained_by_finish`.
-/

namespace FpgaHost

open Steps Attempt

/-! ### The events of a pipeline -/

namespace Pipeline

variable {p : Pipeline} {event : EventHandle}

/-- The stages that hold an event. -/
def holders (p : Pipeline) : List Stage := Stage.all.filter fun stage => (p.event stage).isSome

/-- There are three stages. -/
theorem length_holders_le (p : Pipeline) : p.holders.length ≤ 3 := List.length_filter_le _ _

/-- The events that the stages hold. -/
def events (p : Pipeline) : List EventHandle := Stage.all.filterMap p.event

theorem mem_events : event ∈ p.events ↔ ∃ stage, p.event stage = some event := by
  rw [events, List.mem_filterMap]
  refine exists_congr fun stage => and_iff_right ?_
  cases stage <;> simp [Stage.all]

theorem length_events (p : Pipeline) : p.events.length = p.holders.length := by
  rw [events, holders, List.length_filterMap_eq_countP, List.countP_eq_length_filter]

/-- No event is held for two stages. -/
theorem Held.nodup_events {queue : QueueHandle} {s : Simulator} (held : p.Held queue s) :
    p.events.Nodup := by
  have stages : Stage.all.Nodup := by decide
  exact stages.filterMap fun stage other event mine its => held.distinct stage other event mine its

end Pipeline

namespace Session

variable {s t : Session Simulator} {others : List Loan}

/-! ### Sessions that have all events -/

/-- What was lent on the simulator of a session is held by it or is among others that are no events,
and commands are pending on its queue only. -/
structure OwnsEvents (others : List Loan) (s : Session Simulator) : Prop where
  /-- The others are no events. -/
  ours : ∀ event, Loan.event event ∉ others
  /-- Some history leads to it. -/
  reachable : s.Reachable
  /-- What was lent is held by it or among the others. -/
  holds : s.Holds fun held => Simulator.Covered (held ++ others)
  /-- Nothing is pending elsewhere. -/
  elsewhere : ∀ queue, queue ≠ s.device.queue → s.backend.pendingOf queue = []

/-- A session that begins on a simulator without records has all events. -/
theorem ownsEvents_of_start {backend : Simulator} {image : Image} {config : SessionConfig}
    (reachable : backend.Reachable) (free : backend.eventCount = 0)
    (started : start image config backend = .ok s) : s.OwnsEvents backend.fixtures where
  ours := backend.event_not_mem_fixtures
  reachable := .start reachable started
  holds := by
    have beside := Simulator.accounting_covered.beside backend.fixtures
    have begun := beside.holds_start (Simulator.covered_fixtures free) image config
    rwa [started] at begun
  elsewhere queue _ := idle_elsewhere_of_start started (reachable.recorded.idle free queue)

/-- Every operation keeps it so, whether it succeeds or not. -/
theorem OwnsEvents.perform (owns : s.OwnsEvents others) (operation : Operation) :
    (stateOf (operation.perform s)).OwnsEvents others where
  ours := owns.ours
  reachable := owns.reachable.perform operation
  holds := (Simulator.accounting_covered.beside others).holds_perform operation s owns.holds
  elsewhere := preserves_idle_elsewhere operation s owns.elsewhere

theorem OwnsEvents.performAll (owns : s.OwnsEvents others) (operations : List Operation) :
    (s.performAll operations).OwnsEvents others :=
  holds_performAll (P := OwnsEvents others) (fun operation _ owns => owns.perform operation) owns
    operations

/-- The events that are not given back are those that the stages hold. -/
theorem OwnsEvents.liveEvent?_iff (owns : s.OwnsEvents others) {event : EventHandle} :
    (s.backend.liveEvent? event).isSome ↔ event ∈ s.pipeline.events := by
  rw [Pipeline.mem_events]
  constructor
  · intro live
    have mem := List.mem_append.1 (owns.holds.2 (.event event) live)
    exact stage_of_event_loans (mem.resolve_right (owns.ours event))
  · rintro ⟨stage, held⟩
    exact (sound_of_reachable owns.reachable).2.live stage event held

/-! ### Records that are kept -/

/-- The events with records are those that the stages of the pipeline hold. -/
structure RetainsHeld (s : Session Simulator) : Prop where
  /-- They are the same events. -/
  events : ∀ event, s.backend.events.contains event = true ↔
    ∃ stage, s.pipeline.event stage = some event
  /-- There are as many as stages that hold one. -/
  count : s.backend.eventCount = s.pipeline.holders.length
  /-- So there are three at most. -/
  bounded : s.backend.eventCount ≤ 3

/-- After a finish that succeeds no other records are left. -/
theorem OwnsEvents.retainsHeld (owns : s.OwnsEvents others) (finished : finish s = .ok () t) :
    t.RetainsHeld := by
  have later : t.OwnsEvents others := by
    have perform := owns.perform .finish
    rwa [Operation.perform, finished] at perform
  obtain ⟨-, b, waited⟩ := finish_ok finished
  have idle := idle_of_finish_ok finished later.elsewhere
  have same : ∀ event, t.backend.events.contains event = true ↔ event ∈ t.pipeline.events := by
    intro event
    rw [← later.liveEvent?_iff, Table.contains, Simulator.get?_of_finish waited idle]
  have keys : t.backend.events.keys.Perm t.pipeline.events := by
    have distinct := (sound_of_reachable later.reachable).2.nodup_events
    refine (List.perm_ext_iff_of_nodup t.backend.events.nodup_keys distinct).2 fun event => ?_
    rw [Table.mem_keys_iff, same]
  have count : t.backend.eventCount = t.pipeline.holders.length := by
    rw [← Pipeline.length_events, ← keys.length_eq, Table.keys, List.length_map,
      Simulator.eventCount, Table.size]
  exact ⟨fun event => (same event).trans Pipeline.mem_events, count,
    count ▸ t.pipeline.length_holders_le⟩

/-! ### Whole cycles -/

/-- Measuring changes nothing. -/
theorem metrics_same {measured : CycleMetrics} (told : metrics s = .ok measured t) : t = s := by
  have asks : onBackend s.pipeline.metrics s = .ok measured t := told
  obtain ⟨b, asked, rfl⟩ := within_ok asks
  obtain ⟨u, v, load, compute, store⟩ := Pipeline.measures_of_metrics asked
  obtain ⟨rfl, -⟩ := Pipeline.measure_ok load
  obtain ⟨rfl, -⟩ := Pipeline.measure_ok compute
  obtain ⟨rfl, -⟩ := Pipeline.measure_ok store
  rfl

/-- A whole cycle that succeeds ends with a finish that does. -/
theorem finish_of_invoke {measured : CycleMetrics} (ran : invoke s = .ok measured t) :
    finish (s.performAll (Stage.all.map fun stage => Step.operation (.submit stage))) =
      .ok () t := by
  rw [invoke_apply] at ran
  cases cycle : run wholeCycle s with
  | error e u =>
    rw [cycle] at ran
    contradiction
  | ok _ u =>
    rw [cycle] at ran
    obtain rfl := metrics_same ran
    rw [wholeCycle, run_append] at cycle
    cases submitted : run (Stage.all.map .submit) s with
    | error e v =>
      rw [submitted] at cycle
      contradiction
    | ok _ v =>
      rw [submitted] at cycle
      dsimp only at cycle
      have there := performAll_of_run submitted
      rw [List.map_map] at there
      have last : Step.finish.operation.perform v = Session.finish v := rfl
      rw [run_cons, last] at cycle
      have whole : finish v = .ok () t := by
        cases finished : finish v with
        | error e w =>
          rw [finished] at cycle
          contradiction
        | ok _ w =>
          rw [finished] at cycle
          cases cycle
          rfl
      rw [← whole, ← there]
      rfl

/-- A session that began on a simulator without records of events has done any operations, some of
which may have failed. A finish that succeeds then leaves exactly the records of the events that the
stages hold, three at most, and so does a whole cycle that succeeds. -/
theorem retained_by_finish {backend : Simulator} {image : Image} {config : SessionConfig}
    (reachable : backend.Reachable) (free : backend.eventCount = 0)
    (started : start image config backend = .ok s) (operations : List Operation) :
    (∀ t, finish (s.performAll operations) = .ok () t → t.RetainsHeld) ∧
      ∀ measured t, invoke (s.performAll operations) = .ok measured t → t.RetainsHeld := by
  have owns := (ownsEvents_of_start reachable free started).performAll operations
  exact ⟨fun t finished => owns.retainsHeld finished,
    fun measured t ran => (owns.performAll _).retainsHeld (finish_of_invoke ran)⟩

/-- Two whole cycles for the only argument that are not finished in between. -/
def overlapping : List Operation :=
  [.createBuffer ⟨0, .readWrite, 64, none, .none⟩, .setBuffer 0, .write, .execute, .read,
    .write, .execute, .read]

/-- Before the finish there is a record of each of their six commands. -/
theorem retained_by_finish_overlapping :
    (oneArgument.host []).Reachable ∧ (oneArgument.host []).eventCount = 0 ∧
      start oneArgument {} (oneArgument.host []) = .ok (begun oneArgument [] {}) ∧
      ((begun oneArgument [] {}).performAll overlapping).backend.eventCount = 6 ∧
      ∃ t, finish ((begun oneArgument [] {}).performAll overlapping) = .ok () t ∧
        t.RetainsHeld ∧ t.pipeline.holders = Stage.all := by
  have reachable : (oneArgument.host []).Reachable := .start ⟨rfl, rfl, rfl, rfl, rfl, rfl, rfl⟩
  have started := start_oneArgument []
  have retained := retained_by_finish reachable rfl started overlapping
  have ended : (match finish ((begun oneArgument [] {}).performAll overlapping) with
      | .ok _ t => t.pipeline.holders
      | .error _ _ => []) = Stage.all := by
    decide +kernel
  cases finished : finish ((begun oneArgument [] {}).performAll overlapping) with
  | error e t =>
    rw [finished] at ended
    cases ended
  | ok _ t =>
    rw [finished] at ended
    exact ⟨reachable, rfl, started, rfl, t, rfl, retained.1 t finished, ended⟩

end Session

end FpgaHost
