import FpgaHost.Proofs.Simulator.Memory
import FpgaHost.Proofs.Simulator.Records

/-!
# Which records are kept

The record of an event that was given back is kept exactly as long as the event is needed: while its
command is pending, or another that is pending waits for it. What is needed is found anew each time
an event is given back and each time a queue was started with success; at these times no record is
left of an event that was given back and is not needed. No start ever misses a record: when one
fails, the records of the command at which it stops and of all that this command waits for are there
(`Halted`), so what it lacks is that one of these has run.

Main statement: `collection_exact`.
-/

namespace FpgaHost

open Steps

/-- Whether records are collected when a request succeeds. -/
def Request.collects : Request → Bool
  | .releaseEvent _ => true
  | .flush _ => true
  | .finish _ => true
  | _ => false

namespace Simulator

variable {s t : Simulator} {event : EventHandle} {queue : QueueHandle}

/-! ### What is needed -/

/-- An event is pending, or a command that is pending waits for it. -/
def Needed (s : Simulator) (event : EventHandle) : Prop :=
  ∃ queue, ∃ p ∈ s.pendingOf queue,
    event = p ∨ ∃ r, s.events.get? p = some r ∧ event ∈ r.wait

theorem mem_needs_iff {p : EventHandle} :
    event ∈ s.needs p ↔ event = p ∨ ∃ r, s.events.get? p = some r ∧ event ∈ r.wait := by
  rw [needs, List.mem_cons]
  cases s.events.get? p <;> simp

theorem needed_iff : s.Needed event ↔ event ∈ s.pinned := by
  rw [mem_pinned_iff]
  simp only [Needed, mem_needs_iff]

/-- What is needed before records are collected is needed afterwards. -/
theorem pinned_subset_collectReleased (s : Simulator) : s.pinned ⊆ s.collectReleased.pinned := by
  intro e mem
  obtain ⟨queue, p, pending, needed⟩ := mem_pinned_iff.1 mem
  refine mem_pinned_iff.2 ⟨queue, p, pending, ?_⟩
  rcases mem_needs_iff.1 needed with rfl | ⟨r, found, awaited⟩
  · exact mem_needs_self _ e
  · have kept := get?_of_pinned found (mem_pinned pending (mem_needs_self s p))
    exact mem_needs_of_wait kept awaited

/-- After a collection every record is that of an event that is needed or was not given back. -/
theorem pinned_of_released {r : EventRecord} (found : s.collectReleased.events.get? event = some r)
    (released : r.released = true) : event ∈ s.collectReleased.pinned := by
  rw [get?_collectReleased] at found
  have kept := (Option.filter_eq_some_iff.1 found).2
  rw [released, Bool.not_true, Bool.false_or, List.contains_iff_mem] at kept
  exact pinned_subset_collectReleased s kept

/-- A request by which records are collected leaves them collected when it succeeds. -/
theorem collected_of_collects {r : Request} {answer : r.Answer} (collects : r.collects = true)
    (called : ComputeApi.call r s = .ok answer t) :
    ∃ v clock, t = { collectReleased v with clock } := by
  cases r with
  | releaseEvent event =>
    have released : releaseEvent event s = .ok answer t := called
    rw [releaseEvent_eq] at released
    cases found : s.liveEvent? event with
    | none => simp [found] at released
    | some r =>
      simp only [found, EStateM.Result.ok.injEq] at released
      exact ⟨{ s with events := s.events.modify event fun r => { r with released := true } },
        s.clock, released.2.symm⟩
  | flush queue =>
    have start := start_runPending s queue
    rw [show runPending queue s = .ok answer t from called] at start
    cases start with
    | succeeded lastEnd clock found advanced all later ended => exact ⟨_, clock, rfl⟩
  | finish queue =>
    have start := start_finish s queue
    rw [show finish queue s = .ok answer t from called] at start
    cases start with
    | succeeded lastEnd clock found advanced all later ended => exact ⟨_, clock, rfl⟩
  | _ => contradiction

/-! ### Starts that fail -/

theorem status_of_migrate_error {direction : Direction} {buffers : List BufferHandle} {moved : Nat}
    {status : Status} (failed : migrate direction moved buffers s = .error status t) :
    status = .invalidMemObject := by
  induction buffers generalizing moved s with
  | nil =>
    rw [migrate_nil] at failed
    contradiction
  | cons b rest ih =>
    rw [migrate_cons] at failed
    cases found : s.buffers.get? b with
    | none =>
      rw [found] at failed
      cases failed
      rfl
    | some buffer =>
      rw [found] at failed
      exact ih failed

/-- A command that cannot be carried out names something that is not there, and no event. -/
theorem status_of_execute_error {command : Command} {status : Status}
    (failed : execute command s = .error status t) : status ≠ .invalidEvent := by
  cases command with
  | migrate buffers direction =>
    rw [status_of_migrate_error failed]
    decide
  | task kernel =>
    rw [execute, runKernel_eq] at failed
    cases found : s.kernels.get? kernel with
    | none =>
      rw [found] at failed
      cases failed
      decide
    | some k => cases registered : s.hostKernels.lookup k.name <;> simp [found, registered] at failed

/-- A command with a record that fails for want of an event waits for one that has not run. -/
theorem waits_of_runEvent_error {submitted earliest : Nat} {r : EventRecord} {status : Status}
    (found : s.events.get? event = some r)
    (failed : runEvent submitted earliest event s = .error status t)
    (missing : status = .invalidEvent) : ∃ w ∈ r.wait, s.execution? w = none := by
  by_contra none
  have ended : ∀ w ∈ r.wait, s.Ended w := by
    intro w mem
    rw [Ended, Option.isSome_iff_ne_none]
    exact fun never => none ⟨w, mem, never⟩
  obtain ⟨time, ready⟩ := readyAt_of_ended submitted ended
  rw [runEvent_eq, found] at failed
  simp only [ready] at failed
  cases executed : execute r.command s with
  | ok cost u => simp [executed] at failed
  | error status' u =>
    simp only [executed] at failed
    cases failed
    exact status_of_execute_error executed missing

/-- A start has failed at a command of its queue, whose record is there, as are those of all that it
waits for; if it has failed for want of an event, one of these has not run. -/
def Halted (s : Simulator) (queue : QueueHandle) (status : Status) (t : Simulator) : Prop :=
  ∃ stuck rest r, s.pendingOf queue = (s.runsOf queue).map (·.1) ++ stuck :: rest ∧
    t.events.get? stuck = some r ∧ (∀ w ∈ r.wait, t.events.contains w = true) ∧
    (status = .invalidEvent → ∃ w ∈ r.wait, t.execution? w = none)

/-- If everything that is needed has a record, a start that fails lacks none. -/
theorem halted_of_launch {q : Queue} {status : Status}
    (needed : ∀ e ∈ s.pinned, s.events.contains e = true) (found : s.queues.get? queue = some q)
    (launch : Launch s queue q (s.runsOf queue) (.error status t)) : s.Halted queue status t := by
  cases launch with
  | @failed last v w stuck rest status carried pending stopped =>
    have here : s.pendingOf queue = (s.runsOf queue).map (·.1) ++ stuck :: rest := by
      rw [pendingOf, found]
      exact pending
    have waiting : stuck ∈ s.pendingOf queue := by simp [here]
    have records : ∀ e ∈ s.needs stuck, v.events.contains e = true := fun e mem =>
      carried.advanced.contains_events (needed e (mem_pinned waiting mem))
    obtain ⟨r, there⟩ := Table.contains_iff.1 (records stuck (mem_needs_self s stuck))
    have same : v.needs stuck = s.needs stuck := needs_advanced carried.advanced stuck
    have events := events_of_runEvent_error stopped
    refine ⟨stuck, rest, r, here, ?_, fun w mem => ?_, fun missing => ?_⟩
    · rw [events, there]
    · rw [events]
      exact records w (same ▸ mem_needs_of_wait there mem)
    · obtain ⟨w, mem, never⟩ := waits_of_runEvent_error there stopped missing
      refine ⟨w, mem, ?_⟩
      rwa [execution?, events]

theorem halted_of_starts {r : Request} {status : Status}
    (needed : ∀ e ∈ s.pinned, s.events.contains e = true) (sized : BufferTable.Sized s.buffers)
    (starts : r.starts? = some queue) (present : s.queues.contains queue = true)
    (failed : ComputeApi.call r s = .error status t) : s.Halted queue status t := by
  obtain ⟨q, found⟩ := Table.contains_iff.1 present
  cases r with
  | flush j =>
    obtain rfl : j = queue := Option.some.inj starts
    have launch := launch_runPending sized found
    rw [show runPending j s = .error status t from failed] at launch
    exact halted_of_launch needed found launch
  | finish j =>
    obtain rfl : j = queue := Option.some.inj starts
    have launch := launch_finish sized found
    rw [show finish j s = .error status t from failed] at launch
    exact halted_of_launch needed found launch
  | _ => contradiction

end Simulator

open Simulator

namespace Chronicle

/-! ### Collections -/

/-- Whatever has happened: what is pending has a record, and so has all that it waits for, so that a
start that fails lacks none; events that were not given back have records; and a request by which
records are collected leaves, of the events that were given back, exactly the records of those that
are needed. -/
theorem collection_exact (history : List Happening) :
    (∀ queue, ∀ e ∈ (of history).state.pendingOf queue,
      ∃ r, (of history).state.events.get? e = some r ∧
        ∀ w ∈ r.wait, (of history).state.events.contains w = true) ∧
    (∀ r queue status t, r.starts? = some queue →
      (of history).state.queues.contains queue = true →
      ComputeApi.call r (of history).state = .error status t →
      (of history).state.Halted queue status t) ∧
    (∀ o ∈ (of history).commissions, o.event ∉ (of history).returned →
      (of history).state.events.contains o.event = true) ∧
    ∀ r answer t, r.collects = true → ComputeApi.call r (of history).state = .ok answer t →
      ∀ e ∈ ((of history).asked r).returned, t.events.contains e = true ↔ t.Needed e := by
  have faithful := faithful_of history
  have sized := (sound_of history).reachable.sized
  refine ⟨fun queue e pending => ?_, fun r queue status t starts present failed => ?_,
    faithful.held, fun r answer t collects called e returned => ?_⟩
  · obtain ⟨r, found⟩ := Table.contains_iff.1
      (faithful.needed e (mem_pinned pending (mem_needs_self _ e)))
    refine ⟨r, found, fun w mem => ?_⟩
    exact faithful.needed w (mem_pinned pending (mem_needs_of_wait found mem))
  · exact halted_of_starts faithful.needed sized starts present failed
  · have later := faithful_of (history ++ [.request r])
    have asked : of (history ++ [.request r]) = (of history).asked r := of_append history _
    have state : ((of history).asked r).state = t := congrArg stateOf called
    rw [asked] at later
    rw [needed_iff]
    constructor
    · intro there
      obtain ⟨record, found⟩ := Table.contains_iff.1 there
      obtain ⟨o, -, same, tells⟩ := later.known e record (by rw [state]; exact found)
      have released := tells.released.2 (same ▸ returned)
      obtain ⟨v, clock, rfl⟩ := collected_of_collects collects called
      exact pinned_of_released (s := v) found released
    · intro pinned
      rw [← state] at pinned ⊢
      exact later.needed e pinned

end Chronicle

end FpgaHost
