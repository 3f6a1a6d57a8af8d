import FpgaHost.Proofs.Simulator.Memory
import FpgaHost.Proofs.Simulator.Reachable

/-!
# What pending commands will do to memory

A queue has a memory in prospect: the memory there will be once all that is pending on it has run
(`prospect`), as long as every pending command can run when its turn comes (`Runnable`). Submitting
a command and giving an event back change what is pending and which records are kept, but neither
disturbs what is pending before it (`Undisturbed`).

Main statements: `Underway.submitted` (a submission adds the effect of its command to what is in
prospect), `Underway.released` (giving an event back changes nothing of it) and `Underway.started`
(a start succeeds and leaves exactly the memory that was in prospect).
-/

namespace FpgaHost.Simulator

open Call Steps

variable {s t u : Simulator} {queue : QueueHandle} {event : EventHandle}
  {before events : List EventHandle} {m : Memory}

/-! ### Commands that can run -/

/-- The command of an event can run as soon as some events have ended. -/
def CanRun (s : Simulator) (before : List EventHandle) (event : EventHandle) : Prop :=
  ∃ record, s.events.get? event = some record ∧ s.Ready record.command ∧
    ∀ w ∈ record.wait, s.Ended w ∨ w ∈ before

/-- The commands of events can run one after the other, as soon as some events have ended. -/
def Runnable (s : Simulator) : (before : List EventHandle) → List EventHandle → Prop
  | _, [] => True
  | before, event :: rest => s.CanRun before event ∧ s.Runnable (event :: before) rest

theorem runnable_append {rest : List EventHandle} (first : s.Runnable before events)
    (later : s.Runnable (events.reverse ++ before) rest) : s.Runnable before (events ++ rest) := by
  induction events generalizing before with
  | nil => exact later
  | cons event rest ih =>
    refine ⟨first.1, ih first.2 ?_⟩
    rwa [List.reverse_cons, List.append_assoc] at later

/-- What the commands of events will do to a memory, one after the other. -/
def outcome (s : Simulator) (events : List EventHandle) (m : Memory) : Memory :=
  events.foldl s.effectOf m

/-- Commands that were pending find what they need in another state: the records of their events say
the same of them, and what they wait for has ended if it had. -/
structure Undisturbed (s t : Simulator) (events : List EventHandle) : Prop where
  /-- The kernels are the same. -/
  kernels : t.kernels = s.kernels
  /-- The host kernels are the same. -/
  hostKernels : t.hostKernels = s.hostKernels
  /-- The buffers are there. -/
  buffers : ∀ b, s.buffers.contains b = true → t.buffers.contains b = true
  /-- The records are there. -/
  records : ∀ event ∈ events, ∀ r, s.events.get? event = some r →
    ∃ q, t.events.get? event = some q ∧ q.command = r.command ∧ q.wait = r.wait
  /-- What has ended has ended. -/
  ended : ∀ event ∈ events, ∀ r, s.events.get? event = some r →
    ∀ w ∈ r.wait, s.Ended w → t.Ended w

namespace Undisturbed

theorem tail (h : Undisturbed s t (event :: events)) : Undisturbed s t events :=
  { h with
    records := fun e mem => h.records e (List.mem_cons_of_mem event mem)
    ended := fun e mem => h.ended e (List.mem_cons_of_mem event mem) }

theorem ready (h : Undisturbed s t events) {command : Command} (ready : s.Ready command) :
    t.Ready command := by
  cases command with
  | migrate buffers direction => exact fun b mem => h.buffers b (ready b mem)
  | task kernel =>
    rw [Ready, h.kernels]
    exact ready

theorem runnable (h : Undisturbed s t events) (runnable : s.Runnable before events) :
    t.Runnable before events := by
  induction events generalizing before with
  | nil => trivial
  | cons event rest ih =>
    obtain ⟨⟨r, found, ready, waits⟩, later⟩ := runnable
    obtain ⟨q, there, command, wait⟩ := h.records event List.mem_cons_self r found
    refine ⟨⟨q, there, command ▸ h.ready ready, ?_⟩, ih h.tail later⟩
    intro w mem
    rw [wait] at mem
    exact (waits w mem).imp_left (h.ended event List.mem_cons_self r found w mem)

theorem outcome (h : Undisturbed s t events) (runnable : s.Runnable before events) (m : Memory) :
    t.outcome events m = s.outcome events m := by
  induction events generalizing before m with
  | nil => rfl
  | cons event rest ih =>
    obtain ⟨⟨r, found, -⟩, later⟩ := runnable
    obtain ⟨q, there, command, -⟩ := h.records event List.mem_cons_self r found
    have same : t.effectOf m event = s.effectOf m event := by
      simp only [effectOf, found, there, command, effect_congr h.kernels h.hostKernels]
    rw [Simulator.outcome, Simulator.outcome, List.foldl_cons, List.foldl_cons, same]
    exact ih h.tail later _

end Undisturbed

/-- What changes only queues and the clock disturbs no command. -/
theorem undisturbed_queues (s : Simulator) (queues : Table QueueHandle Queue) (clock : Nat)
    (events : List EventHandle) : Undisturbed s { s with queues, clock } events where
  kernels := rfl
  hostKernels := rfl
  buffers _ there := there
  records _ _ r found := ⟨r, found, rfl, rfl⟩
  ended _ _ _ _ _ _ ended := ended

/-- Carrying commands out disturbs none of those that are still pending. -/
theorem undisturbed_of_advanced (h : Advanced s t) (ended : ∀ e, s.Ended e → t.Ended e)
    (events : List EventHandle) : Undisturbed s t events where
  kernels := h.kernels
  hostKernels := h.hostKernels
  buffers b there := by rw [h.buffers, there]
  records e _ r found := by
    obtain ⟨q, there, same⟩ := h.record found
    simp only [bare, EventRecord.mk.injEq] at same
    exact ⟨q, there, same.1, same.2.1⟩
  ended _ _ _ _ w _ := ended w

/-- Commands that can run one after the other are all carried out, with their effects. -/
theorem runEvents_of_runnable (submitted : Nat) (inOrder : Bool) (lastEnd : Nat)
    (runnable : s.Runnable before events) (first : ∀ e ∈ before, s.Ended e) :
    ∃ last t, runEvents submitted inOrder lastEnd events s = .ok last t ∧
      t.memory = s.outcome events s.memory ∧ ∀ e, s.Ended e ∨ e ∈ events → t.Ended e := by
  induction events generalizing before lastEnd s with
  | nil =>
    refine ⟨lastEnd, s, rfl, rfl, ?_⟩
    rintro e (ended | mem)
    · exact ended
    · contradiction
  | cons event rest ih =>
    obtain ⟨⟨r, found, ready, waits⟩, later⟩ := runnable
    have ended : ∀ w ∈ r.wait, s.Ended w := fun w mem => (waits w mem).elim id (first w)
    obtain ⟨time, u, ran, memory, ends⟩ := runEvent_of_ready submitted
      (if inOrder then lastEnd else 0) found ready ended
    have advanced := advanced_runEvent submitted (if inOrder then lastEnd else 0) event s
    rw [ran, stateOf_ok] at advanced
    have undisturbed := undisturbed_of_advanced advanced (fun e h => ends e (.inl h)) rest
    have now : ∀ e ∈ event :: before, u.Ended e := by
      intro e mem
      rcases List.mem_cons.1 mem with rfl | mem
      · exact ends e (.inr rfl)
      · exact ends e (.inl (first e mem))
    obtain ⟨last, t, finished, reached, all⟩ :=
      ih (max lastEnd time) (undisturbed.runnable later) now
    refine ⟨last, t, ?_, ?_, ?_⟩
    · rw [runEvents_cons, ran]
      exact finished
    · rw [reached, undisturbed.outcome later, memory]
      rfl
    · rintro e (ended | mem)
      · exact all e (.inl (ends e (.inl ended)))
      · rcases List.mem_cons.1 mem with rfl | mem
        · exact all e (.inl (ends e (.inr rfl)))
        · exact all e (.inr mem)

/-! ### Records that are kept -/

/-- What is pending on a queue; nothing if there is no such queue. -/
def pendingOf (s : Simulator) (queue : QueueHandle) : List EventHandle :=
  match s.queues.get? queue with
  | none => []
  | some q => q.pending

theorem get?_of_pinned {e : EventHandle} {r : EventRecord} (found : s.events.get? e = some r)
    (pinned : e ∈ s.pinned) : s.collectReleased.events.get? e = some r := by
  rw [get?_collectReleased, found, Option.filter_some, if_pos]
  simp [pinned]

theorem mem_pinned {e w : EventHandle} (pending : e ∈ s.pendingOf queue) (needed : w ∈ s.needs e) :
    w ∈ s.pinned := by
  rw [pendingOf] at pending
  cases found : s.queues.get? queue with
  | none =>
    rw [found] at pending
    contradiction
  | some q =>
    rw [found] at pending
    refine List.mem_flatMap.2 ⟨q, ?_, List.mem_flatMap.2 ⟨e, pending, needed⟩⟩
    exact List.mem_map_of_mem (f := (·.2)) (Table.mem_entries_iff.2 found)

theorem mem_needs_self (s : Simulator) (e : EventHandle) : e ∈ s.needs e := List.mem_cons_self

theorem mem_needs_of_wait {e w : EventHandle} {r : EventRecord}
    (found : s.events.get? e = some r) (mem : w ∈ r.wait) : w ∈ s.needs e := by
  rw [needs, found]
  exact List.mem_cons_of_mem e mem

/-- Records that are collected are none that a pending command needs. -/
theorem undisturbed_collectReleased (s : Simulator) (queue : QueueHandle) :
    Undisturbed s s.collectReleased (s.pendingOf queue) where
  kernels := rfl
  hostKernels := rfl
  buffers _ there := there
  records e pending r found :=
    ⟨r, get?_of_pinned found (mem_pinned pending (mem_needs_self s e)), rfl, rfl⟩
  ended e pending r found w mem ended := by
    obtain ⟨x, ran⟩ := Option.isSome_iff_exists.1 ended
    obtain ⟨q, there, -⟩ := Option.bind_eq_some_iff.1 ran
    have pinned := mem_pinned pending (mem_needs_of_wait found mem)
    rwa [Ended, execution?, get?_of_pinned there pinned, ← there]

/-- Marking an event as given back disturbs no command. -/
theorem undisturbed_marked (s : Simulator) (event : EventHandle) (events : List EventHandle) :
    Undisturbed s { s with events := s.events.modify event fun r => { r with released := true } }
      events where
  kernels := rfl
  hostKernels := rfl
  buffers _ there := there
  records e _ r found := by
    by_cases same : event = e
    · refine ⟨{ r with released := true }, ?_, rfl, rfl⟩
      rw [same, Table.get?_modify_self, found, Option.map_some]
    · exact ⟨r, by rw [Table.get?_modify_of_ne _ same, found], rfl, rfl⟩
  ended e _ r _ w _ ended := by
    obtain ⟨x, ran⟩ := Option.isSome_iff_exists.1 ended
    obtain ⟨q, there, execution⟩ := Option.bind_eq_some_iff.1 ran
    rw [Ended, execution?]
    by_cases same : event = w
    · rw [same, Table.get?_modify_self, there, Option.map_some, Option.bind_some, execution]
      rfl
    · rw [Table.get?_modify_of_ne _ same]
      exact ended

theorem Undisturbed.trans (h : Undisturbed s t events) (h' : Undisturbed t u events) :
    Undisturbed s u events where
  kernels := h'.kernels.trans h.kernels
  hostKernels := h'.hostKernels.trans h.hostKernels
  buffers b there := h'.buffers b (h.buffers b there)
  records e mem r found := by
    obtain ⟨q, there, command, wait⟩ := h.records e mem r found
    obtain ⟨p, remains, command', wait'⟩ := h'.records e mem q there
    exact ⟨p, remains, command'.trans command, wait'.trans wait⟩
  ended e mem r found w awaited ended := by
    obtain ⟨q, there, -, wait⟩ := h.records e mem r found
    exact h'.ended e mem q there w (wait ▸ awaited) (h.ended e mem r found w awaited ended)

/-! ### The memory in prospect -/

/-- The memory there will be once all that is pending on a queue has run. -/
def prospect (s : Simulator) (queue : QueueHandle) : Memory :=
  s.outcome (s.pendingOf queue) s.memory

/-- A queue is there, all that is pending on it can run, and this will leave a memory. -/
structure Underway (s : Simulator) (queue : QueueHandle) (m : Memory) : Prop where
  /-- The queue is there. -/
  present : s.queues.contains queue = true
  /-- All that is pending can run. -/
  runnable : s.Runnable [] (s.pendingOf queue)
  /-- The memory it will leave. -/
  prospect : s.prospect queue = m

namespace Underway

/-- A queue on which nothing is pending has the present memory in prospect. -/
theorem of_idle (there : s.queues.contains queue = true) (idle : s.pendingOf queue = []) :
    s.Underway queue s.memory where
  present := there
  runnable := by
    rw [idle]
    trivial
  prospect := by
    rw [Simulator.prospect, idle]
    rfl

theorem memory_of_idle (underway : s.Underway queue m) (idle : s.pendingOf queue = []) :
    s.memory = m := by
  rw [← underway.prospect, Simulator.prospect, idle]
  rfl

/-- Whatever disturbs nothing that is pending keeps what is in prospect. -/
theorem undisturbed (underway : s.Underway queue m) (h : Undisturbed s t (s.pendingOf queue))
    (queues : t.queues = s.queues) (memory : t.memory = s.memory) : t.Underway queue m := by
  have pending : t.pendingOf queue = s.pendingOf queue := by rw [pendingOf, pendingOf, queues]
  refine ⟨?_, ?_, ?_⟩
  · rw [queues]
    exact underway.present
  · rw [pending]
    exact h.runnable underway.runnable
  · rw [Simulator.prospect, pending, h.outcome underway.runnable, memory]
    exact underway.prospect

/-- Giving an event back keeps what is in prospect, also if the event is pending or awaited. -/
theorem released (underway : s.Underway queue m) (event : EventHandle) :
    (s.eventReleased event).Underway queue m := by
  refine underway.undisturbed ?_ rfl rfl
  exact (undisturbed_marked s event _).trans (undisturbed_collectReleased _ queue)

end Underway

/-! ### Submitting -/

section
variable {q : Queue} {command : Command} {wait : List EventHandle} {profiling : Bool}

theorem Numbered.ne_next (numbered : s.Numbered) {e : EventHandle} {r : EventRecord}
    (found : s.events.get? e = some r) : ⟨s.nextId⟩ ≠ e := by
  rintro rfl
  exact Nat.lt_irrefl _ (numbered.events _ (Table.contains_iff.2 ⟨r, found⟩))

theorem get?_submitted (numbered : s.Numbered) {e : EventHandle} {r : EventRecord}
    (found : s.events.get? e = some r) :
    (s.submitted queue profiling command wait).events.get? e = some r := by
  rw [submitted, Table.get?_insert_of_ne _ (numbered.ne_next found), found]

theorem ended_submitted (numbered : s.Numbered) {e : EventHandle} (ended : s.Ended e) :
    (s.submitted queue profiling command wait).Ended e := by
  obtain ⟨x, ran⟩ := Option.isSome_iff_exists.1 ended
  obtain ⟨r, found, -⟩ := Option.bind_eq_some_iff.1 ran
  rwa [Ended, execution?, get?_submitted numbered found, ← found]

theorem pendingOf_submitted (found : s.queues.get? queue = some q) :
    (s.submitted queue profiling command wait).pendingOf queue =
      s.pendingOf queue ++ [⟨s.nextId⟩] := by
  rw [pendingOf, pendingOf, submitted, Table.get?_modify_self, found]
  rfl

theorem undisturbed_submitted (numbered : s.Numbered) (events : List EventHandle) :
    Undisturbed s (s.submitted queue profiling command wait) events where
  kernels := rfl
  hostKernels := rfl
  buffers _ there := there
  records _ _ r found := ⟨r, get?_submitted numbered found, rfl, rfl⟩
  ended _ _ _ _ _ _ ended := ended_submitted numbered ended

/-- Submitting a command that can run after what is pending adds its effect to what is in
prospect. -/
theorem Underway.submitted (underway : s.Underway queue m) (numbered : s.Numbered)
    (ready : s.Ready command) (waits : ∀ w ∈ wait, s.Ended w ∨ w ∈ s.pendingOf queue) :
    (s.submitted queue profiling command wait).Underway queue (s.effect command m) := by
  obtain ⟨q, found⟩ := Table.contains_iff.1 underway.present
  have undisturbed : Undisturbed s (s.submitted queue profiling command wait)
      (s.pendingOf queue) := undisturbed_submitted numbered _
  have record : (s.submitted queue profiling command wait).events.get? ⟨s.nextId⟩ =
      some { command, wait, profiling, queued := s.clock + enqueueTime } := by
    rw [Simulator.submitted, Table.get?_insert_self]
  refine ⟨?_, ?_, ?_⟩
  · rw [Simulator.submitted, Table.contains_modify]
    exact underway.present
  · rw [pendingOf_submitted found]
    refine runnable_append (undisturbed.runnable underway.runnable)
      ⟨⟨_, record, undisturbed.ready ready, ?_⟩, trivial⟩
    intro w mem
    refine (waits w mem).imp (ended_submitted numbered) ?_
    intro pending
    exact List.mem_append_left _ (List.mem_reverse.2 pending)
  · have before : (s.submitted queue profiling command wait).outcome (s.pendingOf queue)
        s.memory = m := (undisturbed.outcome underway.runnable s.memory).trans underway.prospect
    rw [Simulator.prospect, pendingOf_submitted found, outcome, List.foldl_append]
    change (s.submitted queue profiling command wait).effectOf
      ((s.submitted queue profiling command wait).outcome (s.pendingOf queue) s.memory) _ = _
    rw [before, effectOf, record]
    rfl

end

/-! ### Starting -/

/-- All that was pending on a queue has run in another state, and left what was in prospect. -/
structure Completed (s : Simulator) (queue : QueueHandle) (m : Memory) (t : Simulator) : Prop where
  /-- The memory that was in prospect is the present one. -/
  underway : t.Underway queue m
  /-- Nothing is pending. -/
  idle : t.pendingOf queue = []
  /-- Events that were not given back are not given back. -/
  live : ∀ e, (s.liveEvent? e).isSome → (t.liveEvent? e).isSome
  /-- They have ended if they were pending. -/
  ended : ∀ e, (s.liveEvent? e).isSome → s.Ended e ∨ e ∈ s.pendingOf queue → t.Ended e
  /-- The kernels are the same. -/
  kernels : t.kernels = s.kernels
  /-- The host kernels are the same. -/
  hostKernels : t.hostKernels = s.hostKernels

theorem ended_collectReleased {e : EventHandle} (live : (s.liveEvent? e).isSome)
    (ended : s.Ended e) : s.collectReleased.Ended e := by
  obtain ⟨r, found⟩ := Option.isSome_iff_exists.1 live
  rwa [Ended, execution?, get?_of_live found, ← (Option.filter_eq_some_iff.1 found).1]

/-- A queue whose pending commands can run is started with success, and leaves the memory that was
in prospect. -/
theorem Underway.started (underway : s.Underway queue m) :
    ∃ t, runPending queue s = .ok () t ∧ Completed s queue m t := by
  obtain ⟨q, found⟩ := Table.contains_iff.1 underway.present
  have pending : s.pendingOf queue = q.pending := by rw [pendingOf, found]
  have undisturbed : Undisturbed s (s.taken queue) (s.pendingOf queue) :=
    undisturbed_queues s _ s.clock _
  obtain ⟨last, t, ran, memory, ends⟩ := runEvents_of_runnable s.clock
    (!q.properties.outOfOrder) q.lastEnd (undisturbed.runnable underway.runnable)
    (fun e mem => absurd mem List.not_mem_nil)
  have advanced := advanced_runEvents s.clock (!q.properties.outOfOrder) q.lastEnd
    (s.pendingOf queue) (s.taken queue)
  rw [ran, stateOf_ok] at advanced
  have drained := ((drained_taken found).advanced advanced).settled last
  have reached : (t.settled queue last).memory = m := by
    rw [← underway.prospect, Simulator.prospect, ← undisturbed.outcome underway.runnable]
    exact memory
  have idle : (t.settled queue last).pendingOf queue = [] := by
    rw [pendingOf, drained.here]
  refine ⟨t.settled queue last, ?_, ?_, idle, ?_, ?_, advanced.kernels, advanced.hostKernels⟩
  · simp only [runPending_eq, found, ← pending, ran]
  · rw [← reached]
    exact .of_idle (Table.contains_iff.2 ⟨_, drained.here⟩) idle
  · intro e live
    rw [settled, liveEvent?_collectReleased]
    exact advanced.live live
  · intro e live h
    exact ended_collectReleased (advanced.live live) (ends e h)

/-- So is a queue that is finished. -/
theorem Underway.finished (underway : s.Underway queue m) :
    ∃ t, finish queue s = .ok () t ∧ Completed s queue m t := by
  obtain ⟨t, ran, completed⟩ := underway.started
  refine ⟨_, by rw [finish_eq, ran], ?_⟩
  obtain ⟨underway, idle, live, ended, kernels, hostKernels⟩ := completed
  have later := underway.undisturbed (undisturbed_queues t t.queues
    (max t.clock (((t.queues.get? queue).map (·.lastEnd)).getD 0)) _) rfl rfl
  exact ⟨later, idle, live, ended, kernels, hostKernels⟩

end FpgaHost.Simulator
