import FpgaHost.Proofs.Simulator.Chronicle
import FpgaHost.Proofs.Simulator.Remains

/-!
# What the records of events tell

The simulator keeps one record for an event, writes to it when the command runs and when the event
is given back, and drops it at some point after that. So a record says what a chronicle says of the
command (`Commission.Tells`), as long as it is there; and it is there as long as the event is not
given back, or is pending or awaited by a pending command. `Faithful` is the invariant that says so,
and every turn of a chronicle keeps it.

Main statement: `faithful_of`.
-/

namespace FpgaHost

open Steps

namespace Simulator

variable {s t : Simulator} {event : EventHandle}

/-! ### Events that are needed -/

theorem mem_pinned_iff : event ∈ s.pinned ↔ ∃ queue, ∃ p ∈ s.pendingOf queue, event ∈ s.needs p := by
  constructor
  · intro mem
    obtain ⟨q, there, mem⟩ := List.mem_flatMap.1 mem
    obtain ⟨⟨queue, q⟩, entry, rfl⟩ := List.mem_map.1 there
    obtain ⟨p, pending, needed⟩ := List.mem_flatMap.1 mem
    refine ⟨queue, p, ?_, needed⟩
    rw [pendingOf, Table.mem_entries_iff.1 entry]
    exact pending
  · rintro ⟨queue, p, pending, needed⟩
    exact mem_pinned pending needed

/-- Where nothing new is pending and commands wait for nothing new, nothing new is needed. -/
theorem pinned_subset (pending : ∀ queue, t.pendingOf queue ⊆ s.pendingOf queue)
    (needs : ∀ p, t.needs p ⊆ s.needs p) : t.pinned ⊆ s.pinned := by
  intro e mem
  obtain ⟨queue, p, there, needed⟩ := mem_pinned_iff.1 mem
  exact mem_pinned (pending queue there) (needs p needed)

theorem needs_congr (same : (t.events.get? event).map (·.wait) = (s.events.get? event).map (·.wait)) :
    t.needs event = s.needs event := by
  rw [needs, needs, same]

theorem needs_advanced (advanced : Advanced s t) (event : EventHandle) :
    t.needs event = s.needs event := by
  have same := congrArg (Option.map (·.wait)) (advanced.events event)
  rw [Option.map_map, Option.map_map] at same
  exact needs_congr same

theorem needs_collectReleased (s : Simulator) (event : EventHandle) :
    s.collectReleased.needs event ⊆ s.needs event := by
  rw [needs, needs, get?_collectReleased]
  cases s.events.get? event with
  | none => exact List.Subset.refl _
  | some r =>
    rw [Option.filter_some]
    split
    · exact List.Subset.refl _
    · exact List.cons_subset_cons event (List.nil_subset _)

/-- Collecting records does not change which events are needed. -/
theorem pinned_collectReleased_subset (s : Simulator) : s.collectReleased.pinned ⊆ s.pinned :=
  pinned_subset (fun _ => List.Subset.refl _) (needs_collectReleased s)

theorem pinned_taken_subset (s : Simulator) (queue : QueueHandle) :
    (s.taken queue).pinned ⊆ s.pinned :=
  pinned_subset (pendingOf_modify_subset s queue fun _ => List.nil_subset _)
    fun _ => List.Subset.refl _

theorem pinned_advanced_subset (advanced : Advanced s t) : t.pinned ⊆ s.pinned := by
  refine pinned_subset (fun queue => ?_) fun p => ?_
  · rw [pendingOf, pendingOf, advanced.queues]
    exact List.Subset.refl _
  · rw [needs_advanced advanced]
    exact List.Subset.refl _

/-- Marking an event as given back does not change which events are needed either. -/
theorem pinned_marked_subset (s : Simulator) (event : EventHandle) :
    pinned { s with events := s.events.modify event fun r => { r with released := true } } ⊆
      s.pinned := by
  have waits : ∀ p, ((s.events.modify event fun r => { r with released := true }).get? p).map
      (·.wait) = (s.events.get? p).map (·.wait) := by
    intro p
    rw [Table.get?_modify]
    split
    · rw [Option.map_map]
      rfl
    · rfl
  refine pinned_subset (fun _ => List.Subset.refl _) fun p => ?_
  rw [needs_congr (waits p)]
  exact List.Subset.refl _

/-- A command that is put into a queue is needed, and so is what it waits for. -/
theorem mem_pinned_submitted {queue : QueueHandle} {profiling : Bool} {command : Command}
    {wait : List EventHandle}
    (mem : event ∈ (s.submitted queue profiling command wait).pinned) :
    event = ⟨s.nextId⟩ ∨ event ∈ wait ∨ event ∈ s.pinned := by
  obtain ⟨j, p, pending, needed⟩ := mem_pinned_iff.1 mem
  by_cases new : (⟨s.nextId⟩ : EventHandle) = p
  · have record : ((s.submitted queue profiling command wait).events.get? p).map (·.wait) =
        some wait := by
      rw [submitted, ← new, Table.get?_insert_self, Option.map_some]
    rw [needs, record, ← new] at needed
    rcases List.mem_cons.1 needed with same | awaited
    · exact .inl same
    · exact .inr (.inl awaited)
  · have old : (s.submitted queue profiling command wait).needs p = s.needs p := by
      refine needs_congr ?_
      rw [submitted, Table.get?_insert_of_ne _ new]
    rw [old] at needed
    have before : p ∈ s.pendingOf j := by
      by_cases same : queue = j
      · cases found : s.queues.get? queue with
        | none =>
          rw [← same, pendingOf, submitted, Table.get?_modify_self, found] at pending
          contradiction
        | some q =>
          rw [← same, pendingOf_submitted found] at pending
          rcases List.mem_append.1 pending with before | this
          · exact same ▸ before
          · exact absurd (List.mem_singleton.1 this).symm new
      · rwa [pendingOf_congr (Table.get?_modify_of_ne s.queues same _)] at pending
    exact .inr (.inr (mem_pinned before needed))

end Simulator

open Simulator

/-! ### Records -/

/-- A record says of a command what was asked for, and what became of it. -/
structure Commission.Tells (log : List (EventHandle × Execution)) (returned : List EventHandle)
    (o : Commission) (r : EventRecord) : Prop where
  /-- The command. -/
  command : r.command = o.command
  /-- What it waits for. -/
  wait : r.wait = o.wait
  /-- When it was put into its queue. -/
  queued : r.queued = o.queued
  /-- How it ran, if it has. -/
  execution : ∀ x, r.execution = some x ↔ (o.event, x) ∈ log
  /-- Whether the event was given back. -/
  released : r.released = true ↔ o.event ∈ returned

namespace Chronicle

variable {c u : Chronicle}

/-- Records say what happened, and those that are needed are there. -/
structure Faithful (c : Chronicle) : Prop where
  /-- A record is that of a command and tells of it. -/
  known : ∀ e r, c.state.events.get? e = some r →
    ∃ o ∈ c.commissions, o.event = e ∧ o.Tells c.log c.returned r
  /-- The record of a command is there as long as its event is not given back. -/
  held : ∀ o ∈ c.commissions, o.event ∉ c.returned → c.state.events.contains o.event = true
  /-- Only events of commands are given back. -/
  returned : ∀ e ∈ c.returned, ∃ o ∈ c.commissions, o.event = e
  /-- The record of what is pending or awaited by a pending command is there. -/
  needed : ∀ e ∈ c.state.pinned, c.state.events.contains e = true

theorem faithful_start : Faithful {} where
  known e r found := by contradiction
  held o mem := absurd mem List.not_mem_nil
  returned e mem := absurd mem List.not_mem_nil
  needed e mem := absurd mem List.not_mem_nil

namespace Faithful

/-- The log tells how the commands ran whose records are there. -/
theorem told (faithful : c.Faithful) : c.state.Told c.log := by
  intro e there x
  obtain ⟨r, found⟩ := Table.contains_iff.1 there
  obtain ⟨o, -, rfl, tells⟩ := faithful.known e r found
  rw [execution?, found, Option.bind_some]
  exact tells.execution x

theorem logged (faithful : c.Faithful) {e : EventHandle} {x : Execution}
    (ran : c.state.execution? e = some x) : (e, x) ∈ c.log := by
  obtain ⟨r, found, -⟩ := Option.bind_eq_some_iff.1 ran
  exact (faithful.told e (Table.contains_iff.2 ⟨r, found⟩) x).1 ran

/-- What leaves records as they are and makes nothing needed keeps this. -/
theorem of_same (faithful : c.Faithful) {v : Simulator} (events : v.events = c.state.events)
    (pinned : v.pinned ⊆ c.state.pinned) : Faithful { c with state := v } where
  known e r found := by
    rw [events] at found
    exact faithful.known e r found
  held o mem kept := by
    rw [events]
    exact faithful.held o mem kept
  returned := faithful.returned
  needed e mem := by
    rw [events]
    exact faithful.needed e (pinned mem)

/-- Collecting drops no record that is needed. -/
theorem collected (faithful : c.Faithful) :
    Faithful { c with state := c.state.collectReleased } where
  known e r found := by
    rw [get?_collectReleased] at found
    exact faithful.known e r (Option.filter_eq_some_iff.1 found).1
  held o mem kept := by
    obtain ⟨r, found⟩ := Table.contains_iff.1 (faithful.held o mem kept)
    obtain ⟨o', -, same, tells⟩ := faithful.known o.event r found
    have live : r.released = false := by
      rw [← Bool.not_eq_true, tells.released, same]
      exact kept
    refine Table.contains_iff.2 ⟨r, ?_⟩
    rw [get?_collectReleased, found, Option.filter_some, if_pos]
    simp [live]
  returned := faithful.returned
  needed e mem := by
    have pinned := pinned_collectReleased_subset c.state mem
    obtain ⟨r, found⟩ := Table.contains_iff.1 (faithful.needed e pinned)
    exact Table.contains_iff.2 ⟨r, get?_of_pinned found pinned⟩

/-- A command that is put into a queue has a record that tells of it. -/
theorem commissioned (faithful : c.Faithful) (sound : c.Sound) (queue : QueueHandle)
    (profiling : Bool) (command : Command) {wait : List EventHandle}
    (live : ∀ w ∈ wait, (c.state.liveEvent? w).isSome) : Faithful { c with
      state := c.state.submitted queue profiling command wait
      commissions := c.commissions ++
        [⟨queue, ⟨c.state.nextId⟩, command, wait, c.state.clock + enqueueTime⟩] } where
  known e r found := by
    by_cases new : (⟨c.state.nextId⟩ : EventHandle) = e
    · rw [Simulator.submitted, new, Table.get?_insert_self] at found
      obtain rfl := Option.some.inj found
      refine ⟨_, List.mem_append_right _ List.mem_cons_self, new, rfl, rfl, rfl, fun x => ?_, ?_⟩
      -- No command has had this event before, so it is neither logged nor given back.
      · have never : (⟨c.state.nextId⟩, x) ∉ c.log := by
          intro mem
          refine sound.trace.next_not_completed ?_
          rw [Trace.completedEvents, trace, events_completions]
          exact List.mem_map_of_mem mem
        exact ⟨fun ran => by contradiction, fun mem => absurd mem never⟩
      · have never : ⟨c.state.nextId⟩ ∉ c.returned := by
          intro mem
          obtain ⟨o, there, same⟩ := faithful.returned _ mem
          refine sound.trace.next_not_accepted o.queue (List.mem_map.2 ⟨o, there, ?_⟩)
          exact Prod.ext rfl same
        exact ⟨fun given => by contradiction, fun mem => absurd mem never⟩
    · rw [Simulator.submitted, Table.get?_insert_of_ne _ new] at found
      obtain ⟨o, mem, same, tells⟩ := faithful.known e r found
      exact ⟨o, List.mem_append_left _ mem, same, tells⟩
  held o mem kept := by
    refine Table.contains_insert.2 ?_
    rcases List.mem_append.1 mem with old | new
    · exact .inr (faithful.held o old kept)
    · rw [List.mem_singleton.1 new]
      exact .inl rfl
  returned e mem := by
    obtain ⟨o, there, same⟩ := faithful.returned e mem
    exact ⟨o, List.mem_append_left _ there, same⟩
  needed e mem := by
    refine Table.contains_insert.2 ?_
    rcases mem_pinned_submitted mem with new | awaited | before
    · exact .inl new
    · obtain ⟨r, found⟩ := Option.isSome_iff_exists.1 (live e awaited)
      exact .inr (Table.contains_iff.2 ⟨r, (Option.filter_eq_some_iff.1 found).1⟩)
    · exact .inr (faithful.needed e before)

/-- The record of an event that is given back says so. -/
theorem marked (faithful : c.Faithful) {event : EventHandle}
    (live : (c.state.liveEvent? event).isSome) : Faithful { c with
      state := { c.state with
        events := c.state.events.modify event fun r => { r with released := true } }
      returned := c.returned ++ [event] } where
  known e r found := by
    by_cases same : event = e
    · rw [same, Table.get?_modify_self] at found
      obtain ⟨q, there, rfl⟩ := Option.map_eq_some_iff.1 found
      obtain ⟨o, mem, here, tells⟩ := faithful.known e q there
      refine ⟨o, mem, here, tells.command, tells.wait, tells.queued, tells.execution, ?_⟩
      rw [here, same]
      exact ⟨fun _ => List.mem_append_right _ List.mem_cons_self, fun _ => rfl⟩
    · rw [Table.get?_modify_of_ne _ same] at found
      obtain ⟨o, mem, here, tells⟩ := faithful.known e r found
      refine ⟨o, mem, here, tells.command, tells.wait, tells.queued, tells.execution, ?_⟩
      rw [tells.released, List.mem_append, List.mem_singleton, here]
      exact ⟨.inl, fun h => h.resolve_right (Ne.symm same)⟩
  held o mem kept := by
    rw [Table.contains_modify]
    exact faithful.held o mem fun before => kept (List.mem_append_left _ before)
  returned e mem := by
    rcases List.mem_append.1 mem with before | this
    · exact faithful.returned e before
    · rw [List.mem_singleton.1 this]
      obtain ⟨r, found⟩ := Option.isSome_iff_exists.1 live
      obtain ⟨o, there, same, -⟩ := faithful.known event r (Option.filter_eq_some_iff.1 found).1
      exact ⟨o, there, same⟩
  needed e mem := by
    rw [Table.contains_modify]
    exact faithful.needed e (pinned_marked_subset c.state event mem)

/-- The records of commands that are carried out say how. -/
theorem carried (faithful : c.Faithful) (round : Round) {v : Simulator}
    (advanced : Advanced c.state v) (told : v.Told (c.log ++ round.runs)) :
    Faithful { c with state := v, rounds := c.rounds ++ [round] } where
  known e r found := by
    have same := advanced.events e
    rw [found, Option.map_some] at same
    obtain ⟨q, there, bared⟩ := Option.map_eq_some_iff.1 same.symm
    simp only [bare, EventRecord.mk.injEq] at bared
    obtain ⟨o, mem, here, tells⟩ := faithful.known e q there
    refine ⟨o, mem, here, bared.1 ▸ tells.command, bared.2.1 ▸ tells.wait,
      bared.2.2.2.1 ▸ tells.queued, fun x => ?_, ?_⟩
    · have ran := told e (Table.contains_iff.2 ⟨r, found⟩) x
      rw [execution?, found, Option.bind_some] at ran
      rw [log_append, here]
      exact ran
    · rw [← bared.2.2.2.2.2]
      exact tells.released
  held o mem kept := advanced.contains_events (faithful.held o mem kept)
  returned := faithful.returned
  needed e mem :=
    advanced.contains_events (faithful.needed e (pinned_advanced_subset advanced mem))

/-- A start that succeeds leaves the queue with the end of its last command, and then collects. -/
theorem settled (faithful : c.Faithful) (queue : QueueHandle) (lastEnd clock : Nat) :
    Faithful { c with state := { c.state.settled queue lastEnd with clock } } := by
  have ended : Faithful { c with state := { c.state with
      queues := c.state.queues.modify queue fun q => { q with lastEnd } } } :=
    faithful.of_same rfl (pinned_subset
      (pendingOf_modify_subset c.state queue fun _ => List.Subset.refl _)
      fun _ => List.Subset.refl _)
  exact ended.collected.of_same rfl (List.Subset.refl _)

/-- Every turn keeps records faithful. -/
theorem turn (faithful : c.Faithful) (sound : c.Sound) (later : u.Sound) (turn : Turn c u) :
    u.Faithful := by
  cases turn with
  | quiet same =>
    refine faithful.of_same same.events (pinned_subset (fun queue => ?_) fun p => ?_)
    · rw [pendingOf, pendingOf, same.queues]
      exact List.Subset.refl _
    · rw [needs, needs, same.events]
      exact List.Subset.refl _
  | created properties =>
    refine faithful.of_same rfl (pinned_subset (fun queue => ?_) fun _ => List.Subset.refl _)
    by_cases new : ⟨c.state.nextId⟩ = queue
    · rw [← new, pendingOf, Table.get?_insert_self]
      exact List.nil_subset _
    · rw [pendingOf_congr (Table.get?_insert_of_ne c.state.queues new _)]
      exact List.Subset.refl _
  | commissioned found command live => exact faithful.commissioned sound _ _ command live
  | returned live => exact (faithful.marked live).collected
  | @started queue q outcome found launch =>
    have once := later.once
    rw [log_append] at once
    have taken : Faithful { c with state := c.state.taken queue } :=
      faithful.of_same rfl (pinned_taken_subset c.state queue)
    cases launch with
    | @succeeded last v carried all clock grown =>
      have told := carried.told taken.told once
      exact (taken.carried ⟨c.state, queue, true⟩ carried.advanced told).settled queue last clock
    | @failed last v w stuck rest status carried pending stopped =>
      have told := carried.told taken.told once
      have advanced := advanced_runEvent c.state.clock
        (earliestOf (!q.properties.outOfOrder) last) stuck v
      rw [stopped, stateOf_error] at advanced
      exact (taken.carried ⟨c.state, queue, false⟩ carried.advanced told).of_same
        (events_of_runEvent_error stopped) (pinned_advanced_subset advanced)

end Faithful

/-- The records are faithful after every history. -/
theorem faithful_of (history : List Happening) : (of history).Faithful :=
  of_induction (fun _ _ sound later faithful turn => faithful.turn sound later turn) faithful_start
    history

end Chronicle

end FpgaHost
