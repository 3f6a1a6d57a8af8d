import FpgaHost.Proofs.Simulator.Prospect
import FpgaHost.Proofs.Simulator.Reachable
import FpgaHost.Proofs.Simulator.Rounds

/-!
# Commands that wait for one another

If each of the commands that are pending on a queue waits for the one before it (`Chained`), it
makes no difference whether the queue works in order: once it is started they run without a gap,
each from the end of the one before it (`Relay`). So the whole takes as long as its parts.

Main statements: `CarriesOut.relay`, and `Train.finished` for a queue that is free when its commands
are started.
-/

namespace FpgaHost

/-! ### Spans of time -/

/-- When a command began and ended. -/
def Execution.span (x : Execution) : Nat × Nat := (x.started, x.ended)

/-- Some spans of time lead from one instant to another: each begins when the one before it ends. -/
def Relay : (start : Nat) → List (Nat × Nat) → (stop : Nat) → Prop
  | start, [], stop => start = stop
  | start, (began, ended) :: rest, stop => began = start ∧ began ≤ ended ∧ Relay ended rest stop

namespace Relay

variable {start stop : Nat} {spans : List (Nat × Nat)}

/-- All spans lie between the two instants. -/
theorem within (relay : Relay start spans stop) :
    start ≤ stop ∧ ∀ span ∈ spans, start ≤ span.1 ∧ span.2 ≤ stop := by
  induction spans generalizing start with
  | nil => exact ⟨Nat.le_of_eq relay, fun span mem => absurd mem List.not_mem_nil⟩
  | cons first rest ih =>
    obtain ⟨rfl, forward, later⟩ := relay
    obtain ⟨before, inside⟩ := ih later
    refine ⟨Nat.le_trans forward before, fun span mem => ?_⟩
    rcases List.mem_cons.1 mem with rfl | mem
    · exact ⟨Nat.le_refl _, before⟩
    · exact ⟨Nat.le_trans forward (inside span mem).1, (inside span mem).2⟩

/-- The spans make up the time between the two instants. -/
theorem stop_eq (relay : Relay start spans stop) :
    stop = start + (spans.map fun span => span.2 - span.1).sum := by
  induction spans generalizing start with
  | nil => exact relay.symm
  | cons first rest ih =>
    obtain ⟨rfl, forward, later⟩ := relay
    rw [ih later, List.map_cons, List.sum_cons]
    omega

theorem stop_mem (relay : Relay start spans stop) (nonempty : spans ≠ []) :
    stop ∈ spans.map (·.2) := by
  induction spans generalizing start with
  | nil => contradiction
  | cons first rest ih =>
    obtain ⟨-, -, later⟩ := relay
    cases rest with
    | nil =>
      obtain rfl : first.2 = stop := later
      exact List.mem_cons_self
    | cons second others => exact List.mem_cons_of_mem _ (ih later (List.cons_ne_nil _ _))

/-- The first span begins first. -/
theorem min?_eq (relay : Relay start spans stop) (nonempty : spans ≠ []) :
    (spans.map (·.1)).min? = some start := by
  refine List.min?_eq_some_iff.2 ⟨?_, fun began mem => ?_⟩
  · cases spans with
    | nil => contradiction
    | cons first rest =>
      obtain ⟨rfl, -⟩ := relay
      exact List.mem_cons_self
  · obtain ⟨span, there, rfl⟩ := List.mem_map.1 mem
    exact (relay.within.2 span there).1

/-- The last span ends last. -/
theorem max?_eq (relay : Relay start spans stop) (nonempty : spans ≠ []) :
    (spans.map (·.2)).max? = some stop := by
  refine List.max?_eq_some_iff.2 ⟨relay.stop_mem nonempty, fun ended mem => ?_⟩
  obtain ⟨span, there, rfl⟩ := List.mem_map.1 mem
  exact (relay.within.2 span there).2

end Relay

namespace Simulator

open Steps

variable {s t u : Simulator} {queue : QueueHandle} {event : EventHandle}
  {before : Option EventHandle} {events : List EventHandle} {command : Command}

/-! ### Chains -/

/-- Each of some events is there and its command waits for the event before it, the first one for a
given event or for none. -/
def Chained (s : Simulator) : (before : Option EventHandle) → List EventHandle → Prop
  | _, [] => True
  | before, event :: rest =>
    (∃ r, s.liveEvent? event = some r ∧ r.wait = before.toList) ∧ s.Chained (some event) rest

namespace Chained

theorem mono (chained : s.Chained before events)
    (keeps : ∀ e r, s.liveEvent? e = some r → ∃ q, t.liveEvent? e = some q ∧ q.wait = r.wait) :
    t.Chained before events := by
  induction events generalizing before with
  | nil => trivial
  | cons event rest ih =>
    obtain ⟨⟨r, live, wait⟩, later⟩ := chained
    obtain ⟨q, there, same⟩ := keeps event r live
    exact ⟨⟨q, there, same.trans wait⟩, ih later⟩

/-- Carrying out commands leaves what they wait for. -/
theorem advanced (chained : s.Chained before events) (advanced : Advanced s t) :
    t.Chained before events := by
  refine chained.mono fun e r live => ?_
  have same := advanced.liveEvent? e
  rw [live, Option.map_some] at same
  obtain ⟨q, there, bared⟩ := Option.map_eq_some_iff.1 same
  have wait : (bare q).wait = (bare r).wait := congrArg EventRecord.wait bared
  exact ⟨q, there, wait⟩

/-- A chain goes on with an event that waits for the last one. -/
theorem concat {r : EventRecord} (chained : s.Chained before events)
    (live : s.liveEvent? event = some r) (wait : r.wait = (events.getLast?.or before).toList) :
    s.Chained before (events ++ [event]) := by
  induction events generalizing before with
  | nil => exact ⟨⟨r, live, wait⟩, trivial⟩
  | cons first rest ih =>
    refine ⟨chained.1, ih chained.2 ?_⟩
    rw [wait, List.getLast?_cons]
    cases rest.getLast? <;> rfl

theorem live (chained : s.Chained before events) : ∀ e ∈ events, (s.liveEvent? e).isSome := by
  induction events generalizing before with
  | nil => exact fun e mem => absurd mem List.not_mem_nil
  | cons first rest ih =>
    obtain ⟨⟨r, live, -⟩, later⟩ := chained
    intro e mem
    rcases List.mem_cons.1 mem with rfl | mem
    · rw [live]
      rfl
    · exact ih later e mem

end Chained

/-! ### Chains that are carried out -/

section
variable {submitted lastEnd last now : Nat} {inOrder : Bool} {runs : List (EventHandle × Execution)}

/-- What is not among the commands that are carried out has run as it had. -/
theorem CarriesOut.execution?_of_not_mem (carried : CarriesOut submitted inOrder lastEnd s runs last t)
    (other : event ∉ runs.map (·.1)) : t.execution? event = s.execution? event := by
  induction carried with
  | done lastEnd s => rfl
  | @next lastEnd last s u t first r x rest ran others ih =>
    obtain ⟨ne, later⟩ := not_or.1 (mt List.mem_cons.2 other)
    rw [ih later, execution?, ran.events, Table.get?_modify_of_ne _ (Ne.symm ne), execution?]

/-- How a command ran can be read off its record. -/
theorem CarriesOut.recorded (carried : CarriesOut submitted inOrder lastEnd s runs last t)
    (once : (runs.map (·.1)).Nodup) : ∀ run ∈ runs, t.execution? run.1 = some run.2 := by
  induction carried with
  | done lastEnd s => exact fun run mem => absurd mem List.not_mem_nil
  | @next lastEnd last s u t first r x rest ran others ih =>
    obtain ⟨new, once⟩ := List.nodup_cons.1 once
    intro run mem
    rcases List.mem_cons.1 mem with rfl | mem
    · rw [others.execution?_of_not_mem new]
      exact execution?_noted ran.record ran.events
    · exact ih once run mem

/-- Commands that wait for one another run without a gap, in order or not, if the queue is free by
the time at which the first one is ready. -/
theorem CarriesOut.relay (carried : CarriesOut submitted inOrder lastEnd s runs last t)
    (chained : s.Chained before (runs.map (·.1)))
    (ready : s.readyAt submitted before.toList = some now) (free : lastEnd ≤ now) :
    Relay now (runs.map fun run => run.2.span) (max now last) := by
  induction carried generalizing before now with
  | done lastEnd s => exact (Nat.max_eq_left free).symm
  | @next lastEnd last s u t first r x rest ran others ih =>
    obtain ⟨⟨q, live, wait⟩, later⟩ := chained
    have record := (Option.filter_eq_some_iff.1 live).1
    obtain rfl := Option.some.inj (ran.record.symm.trans record)
    obtain ⟨time, known, started⟩ := ran.started
    rw [wait, ready] at known
    obtain rfl := Option.some.inj known
    have earliest : earliestOf inOrder lastEnd ≤ now := by
      rw [earliestOf]
      split
      · exact free
      · exact Nat.zero_le now
    rw [Nat.max_eq_left earliest] at started
    have forward : x.started ≤ x.ended := by
      rw [ran.ended]
      exact Nat.le_add_right _ _
    have after : submitted ≤ now := (ended_of_readyAt ready).1
    have next : u.readyAt submitted (some first).toList = some x.ended := by
      have ended : u.ended? first = some x.ended := by
        have noted := execution?_noted ran.record ran.events
        rw [execution?] at noted
        rw [ended?, noted, Option.map_some]
      have late : max submitted x.ended = x.ended := Nat.max_eq_right (by omega)
      simp [readyAt, ended, late]
    have rest := ih (later.advanced ran.advanced) next (by omega)
    have last : max x.ended last = max now last := by
      have by_last := others.last_eq.1
      omega
    exact ⟨started, forward, last ▸ rest⟩

end

/-! ### Queues -/

/-- What is pending on a queue waits for one another, was put into it from some time on, and the
queue was free by then. -/
structure Train (s : Simulator) (queue : QueueHandle) (since : Nat) (events : List EventHandle) :
    Prop where
  /-- The events are those of the pending commands. -/
  pending : s.pendingOf queue = events
  /-- Each of these waits for the one before it. -/
  chained : s.Chained none events
  /-- No event stands for two of them. -/
  distinct : events.Nodup
  /-- Time went on only while they were put into the queue. -/
  clock : s.clock = since + enqueueTime * events.length
  /-- What was in the queue before them had ended. -/
  free : ∀ q, s.queues.get? queue = some q → q.lastEnd ≤ since

theorem train_of_idle (idle : s.pendingOf queue = [])
    (free : ∀ q, s.queues.get? queue = some q → q.lastEnd ≤ s.clock) :
    s.Train queue s.clock [] :=
  ⟨idle, trivial, List.nodup_nil, rfl, free⟩

theorem liveEvent?_submitted (numbered : s.Numbered) {profiling : Bool} {wait : List EventHandle}
    {r : EventRecord} (live : s.liveEvent? event = some r) :
    (s.submitted queue profiling command wait).liveEvent? event = some r := by
  have found := (Option.filter_eq_some_iff.1 live).1
  have kept : (s.submitted queue profiling command wait).events.get? event = s.events.get? event := by
    rw [get?_submitted numbered found, found]
  rwa [liveEvent?, kept]

/-- One more command that waits for the last one. -/
theorem Train.submitted {since : Nat} {q : Queue} (train : s.Train queue since events)
    (numbered : s.Numbered) (found : s.queues.get? queue = some q) (profiling : Bool)
    (command : Command) :
    (s.submitted queue profiling command events.getLast?.toList).Train queue since
      (events ++ [⟨s.nextId⟩]) where
  pending := by rw [pendingOf_submitted found, train.pending]
  chained := by
    have chained : (s.submitted queue profiling command events.getLast?.toList).Chained none events :=
      train.chained.mono fun e r live => ⟨r, liveEvent?_submitted numbered live, rfl⟩
    have live : (s.submitted queue profiling command events.getLast?.toList).liveEvent? ⟨s.nextId⟩ =
        some { command, wait := events.getLast?.toList, profiling,
               queued := s.clock + enqueueTime } := by
      rw [liveEvent?, Simulator.submitted, Table.get?_insert_self]
      rfl
    refine chained.concat live ?_
    rw [Option.or_none]
  distinct := by
    refine List.nodup_append.2 ⟨train.distinct, List.pairwise_singleton _ _, ?_⟩
    rintro e mem _ new rfl
    rw [List.mem_singleton.1 new] at mem
    obtain ⟨r, live⟩ := Option.isSome_iff_exists.1 (train.chained.live _ mem)
    exact numbered.ne_next (Option.filter_eq_some_iff.1 live).1 rfl
  clock := by
    have clock : (s.submitted queue profiling command events.getLast?.toList).clock =
      s.clock + enqueueTime := rfl
    rw [clock, train.clock, List.length_append, List.length_singleton, Nat.mul_succ, Nat.add_assoc]
  free p there := by
    rw [Simulator.submitted, Table.get?_modify_self, found] at there
    rw [← Option.some.inj there]
    exact train.free q found

/-- What an event that is not given back tells can still be read once its queue has settled. -/
theorem settled_of_live (queue : QueueHandle) (lastEnd : Nat) (live : (s.liveEvent? event).isSome) :
    ((s.settled queue lastEnd).liveEvent? event).isSome ∧
      (s.settled queue lastEnd).execution? event = s.execution? event := by
  obtain ⟨r, live⟩ := Option.isSome_iff_exists.1 live
  have found := (Option.filter_eq_some_iff.1 live).1
  have kept : (s.settled queue lastEnd).events.get? event = some r :=
    get?_of_live (s := { s with queues := s.queues.modify queue fun q => { q with lastEnd } }) live
  refine ⟨?_, ?_⟩
  · rw [liveEvent?, kept, ← found]
    exact Option.isSome_iff_exists.2 ⟨r, live⟩
  · rw [execution?, kept, execution?, found]

/-- A start that succeeds carries out all that is pending. -/
theorem runPending_ok {q : Queue} (sized : BufferTable.Sized s.buffers)
    (found : s.queues.get? queue = some q) (ran : runPending queue s = .ok () t) :
    ∃ runs last u, CarriesOut s.clock (!q.properties.outOfOrder) q.lastEnd (s.taken queue) runs last u ∧
      runs.map (·.1) = q.pending ∧ t = u.settled queue last := by
  obtain ⟨runs, last, u, carried, -, outcome⟩ := carriesOut_runEvents s.clock
    (!q.properties.outOfOrder) q.lastEnd q.pending (s := s.taken queue) sized
  rw [runPending_eq, found] at ran
  rcases outcome with ⟨all, done⟩ | ⟨stuck, rest, status, v, -, -, failed⟩
  · simp only [done, EStateM.Result.ok.injEq, true_and] at ran
    exact ⟨runs, last, u, carried, all, ran.symm⟩
  · simp [failed] at ran

/-- Waiting for a queue on which nothing is pending takes the time to the end of its last
command. -/
theorem finish_of_idle {q : Queue} (found : s.queues.get? queue = some q) (idle : q.pending = []) :
    finish queue s = .ok () { (s.taken queue).settled queue q.lastEnd with
      clock := max s.clock q.lastEnd } := by
  have ran : runPending queue s = .ok () ((s.taken queue).settled queue q.lastEnd) := by
    rw [runPending_eq, found]
    simp only [idle, runEvents, pure_apply]
  rw [finish_eq, ran]
  dsimp only
  rw [((drained_taken found).settled q.lastEnd).here]
  rfl

/-- Commands that wait for one another run without a gap, from when their queue is started until the
time at which the wait for it is over. -/
theorem Train.finished {since : Nat} (train : s.Train queue since events)
    (sized : BufferTable.Sized s.buffers) (flushed : runPending queue s = .ok () t)
    (waited : finish queue t = .ok () u) :
    ∃ runs : List (EventHandle × Execution), runs.map (·.1) = events ∧
      (∀ run ∈ runs, u.execution? run.1 = some run.2) ∧
      Relay s.clock (runs.map fun run => run.2.span) u.clock := by
  cases found : s.queues.get? queue with
  | none =>
    rw [runPending_eq, found] at flushed
    contradiction
  | some q =>
    obtain ⟨runs, last, v, carried, all, rfl⟩ := runPending_ok sized found flushed
    have pending : q.pending = events := by
      have pending := train.pending
      rwa [pendingOf, found] at pending
    rw [pending] at all
    have chained : (s.taken queue).Chained none (runs.map (·.1)) := all.symm ▸ train.chained.mono
      fun e r live => ⟨r, live, rfl⟩
    have free : q.lastEnd ≤ s.clock := by
      have free := train.free q found
      rw [train.clock]
      omega
    have ready : (s.taken queue).readyAt s.clock (none : Option EventHandle).toList = some s.clock :=
      rfl
    have relay := carried.relay chained ready free
    have drained := ((drained_taken found).advanced carried.advanced).settled last
    rw [finish_of_idle drained.here rfl] at waited
    cases waited
    have clock : (v.settled queue last).clock = s.clock := by
      have same : v.clock = s.clock := by
        rw [carried.advanced.rest]
        rfl
      exact same
    refine ⟨runs, all, fun run mem => ?_, ?_⟩
    · have live := (chained.advanced carried.advanced).live run.1 (List.mem_map_of_mem mem)
      obtain ⟨live, same⟩ := settled_of_live queue last live
      have again := settled_of_live (s := (v.settled queue last).taken queue) queue last live
      refine (again.2.trans same).trans (carried.recorded ?_ run mem)
      exact all.symm ▸ train.distinct
    · dsimp only
      rw [clock]
      exact relay

end Simulator

end FpgaHost
