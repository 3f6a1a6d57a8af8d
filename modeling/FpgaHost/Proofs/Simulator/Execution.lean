import FpgaHost.Proofs.Simulator.Calls
import FpgaHost.Proofs.Simulator.Sizes

/-!
# What the start of a queue does

Starting a queue takes its pending commands and carries them out one after the other until one
cannot run. This module describes that: carrying out commands changes nothing but the memories, the
records of events and the runs (`Steady`), and `performed` names the commands that were carried out,
each with what its record said of it right afterwards.

Main statements: `performed_of_ok` (a start that succeeds carries out all that was pending) and
`performed_of_error` (a start that fails carries out what stands before some pending command, and
never that command).
-/

namespace FpgaHost.Simulator

open Call Steps

variable {s t u : Simulator}

/-! ### What stays -/

/-- What the record of an event says apart from how its command ran. -/
def bare (record : EventRecord) : EventRecord := { record with execution := none }

/-- Only what memories hold and the runs may differ. -/
structure Steady (s t : Simulator) : Prop where
  /-- Everything else is the same. -/
  rest : t = { s with buffers := t.buffers, runs := t.runs }
  /-- The same buffers are there. -/
  buffers : ∀ b, t.buffers.contains b = s.buffers.contains b
  /-- Buffers keep their sizes. -/
  sized : BufferTable.Sized s.buffers → BufferTable.Sized t.buffers

/-- Only what memories hold, the runs and how commands ran may differ. -/
structure Advanced (s t : Simulator) : Prop where
  /-- Everything else is the same. -/
  rest : t = { s with buffers := t.buffers, runs := t.runs, events := t.events }
  /-- The same buffers are there. -/
  buffers : ∀ b, t.buffers.contains b = s.buffers.contains b
  /-- Buffers keep their sizes. -/
  sized : BufferTable.Sized s.buffers → BufferTable.Sized t.buffers
  /-- The same events are there, and their records say the same. -/
  events : ∀ e, (t.events.get? e).map bare = (s.events.get? e).map bare

namespace Steady

theorem refl (s : Simulator) : Steady s s := ⟨rfl, fun _ => rfl, id⟩

theorem trans (h : Steady s t) (h' : Steady t u) : Steady s u where
  rest := by
    rw [h'.rest, h.rest]
  buffers b := (h'.buffers b).trans (h.buffers b)
  sized := h'.sized ∘ h.sized

theorem events (h : Steady s t) : t.events = s.events := by
  rw [h.rest]

theorem advanced (h : Steady s t) : Advanced s t where
  rest := by
    rw [h.rest]
  buffers := h.buffers
  sized := h.sized
  events e := by rw [h.events]

end Steady

namespace Advanced

theorem refl (s : Simulator) : Advanced s s := ⟨rfl, fun _ => rfl, id, fun _ => rfl⟩

theorem trans (h : Advanced s t) (h' : Advanced t u) : Advanced s u where
  rest := by
    rw [h'.rest, h.rest]
  buffers b := (h'.buffers b).trans (h.buffers b)
  sized := h'.sized ∘ h.sized
  events e := (h'.events e).trans (h.events e)

theorem queues (h : Advanced s t) : t.queues = s.queues := by
  rw [h.rest]

theorem kernels (h : Advanced s t) : t.kernels = s.kernels := by
  rw [h.rest]

theorem hostKernels (h : Advanced s t) : t.hostKernels = s.hostKernels := by
  rw [h.rest]

theorem nextId (h : Advanced s t) : t.nextId = s.nextId := by
  rw [h.rest]

/-- A record that is there stays there and says the same. -/
theorem record (h : Advanced s t) {e : EventHandle} {r : EventRecord}
    (found : s.events.get? e = some r) : ∃ q, t.events.get? e = some q ∧ bare q = bare r := by
  have same := h.events e
  rw [found, Option.map_some, Option.map_eq_some_iff] at same
  exact same

theorem contains_events (h : Advanced s t) {e : EventHandle} (there : s.events.contains e = true) :
    t.events.contains e = true := by
  obtain ⟨r, found⟩ := Table.contains_iff.1 there
  obtain ⟨q, remains, -⟩ := h.record found
  exact Table.contains_iff.2 ⟨q, remains⟩

/-- Events that were not given back are the same, and their records say the same. -/
theorem liveEvent? (h : Advanced s t) (e : EventHandle) :
    (t.liveEvent? e).map bare = (s.liveEvent? e).map bare := by
  have bared : ∀ u : Simulator, (u.liveEvent? e).map bare =
      ((u.events.get? e).map bare).filter (!·.released) := by
    intro u
    rw [Simulator.liveEvent?]
    cases u.events.get? e with
    | none => rfl
    | some r => cases released : r.released <;> simp [Option.filter, bare, released]
  rw [bared, bared, h.events]

theorem live (h : Advanced s t) {e : EventHandle} (live : (s.liveEvent? e).isSome) :
    (t.liveEvent? e).isSome := by
  have same := congrArg Option.isSome (h.liveEvent? e)
  rw [Option.isSome_map, Option.isSome_map] at same
  exact same.trans live

end Advanced

/-! ### Records that are kept -/

theorem get?_collectReleased (s : Simulator) (e : EventHandle) :
    s.collectReleased.events.get? e =
      (s.events.get? e).filter fun r => !r.released || s.pinned.contains e :=
  Table.get?_filter s.events _ e

/-- No event that was not given back is collected. -/
theorem liveEvent?_collectReleased (s : Simulator) (e : EventHandle) :
    s.collectReleased.liveEvent? e = s.liveEvent? e := by
  rw [liveEvent?, liveEvent?, get?_collectReleased]
  cases s.events.get? e with
  | none => rfl
  | some r =>
    by_cases pinned : e ∈ s.pinned <;> cases released : r.released <;>
      simp [Option.filter, released, pinned]

theorem get?_of_live {e : EventHandle} {r : EventRecord} (live : s.liveEvent? e = some r) :
    s.collectReleased.events.get? e = some r := by
  rw [← liveEvent?_collectReleased] at live
  exact (Option.filter_eq_some_iff.1 live).1

/-! ### One command -/

theorem migrate_nil (direction : Direction) (moved : Nat) (s : Simulator) :
    migrate direction moved [] s =
      .ok (migrationSetupTime + (moved + s.bandwidth - 1) / s.bandwidth) s := rfl

theorem migrate_cons (direction : Direction) (moved : Nat) (b : BufferHandle)
    (rest : List BufferHandle) (s : Simulator) :
    migrate direction moved (b :: rest) s = match s.buffers.get? b with
      | none => .error .invalidMemObject s
      | some buffer =>
        migrate direction (addWords moved buffer.host.size) rest
          { s with buffers := s.buffers.modify b (·.migrate direction) } := by
  rw [migrate, get_bind, require_bind]
  cases s.buffers.get? b <;> rfl

theorem steady_migrate (direction : Direction) (buffers : List BufferHandle) (moved : Nat)
    (s : Simulator) : Steady s (stateOf (migrate direction moved buffers s)) := by
  induction buffers generalizing moved s with
  | nil => exact Steady.refl s
  | cons b rest ih =>
    rw [migrate_cons]
    cases s.buffers.get? b with
    | none => exact Steady.refl s
    | some buffer =>
      have copied : Steady s { s with buffers := s.buffers.modify b (·.migrate direction) } :=
        ⟨rfl, fun j => Table.contains_modify s.buffers j b _,
          fun sized => sized.modify b fun u h => h.migrate direction⟩
      exact copied.trans (ih (addWords moved buffer.host.size) _)

/-- A host kernel neither makes nor frees buffers. -/
theorem contains_run {α : Type} (args : Table Nat KernelArg) (program : Interaction α)
    (buffers : BufferTable) (b : BufferHandle) :
    (program.run args buffers).2.contains b = buffers.contains b := by
  induction program generalizing buffers with
  | done a => rfl
  | scalar index next ih => exact ih _ buffers
  | read index next ih => exact ih _ buffers
  | write index data next ih =>
    rw [Interaction.run]
    cases bufferAt args buffers index with
    | none => exact ih false buffers
    | some bound => exact (ih true _).trans (Table.contains_modify buffers b bound.1 _)

theorem runKernel_eq (kernel : KernelHandle) (s : Simulator) :
    runKernel kernel s = match s.kernels.get? kernel with
      | none => .error .invalidValue s
      | some k =>
        match s.hostKernels.lookup k.name with
        | none => .ok s.kernelTime s
        | some program =>
          .ok s.kernelTime { s with
            buffers := (program.run k.args s.buffers).2
            runs := s.runs ++ [⟨k.name, (program.run k.args s.buffers).1⟩] } := by
  rw [runKernel, get_bind, require_bind]
  cases s.kernels.get? kernel with
  | none => rfl
  | some k =>
    dsimp only
    cases s.hostKernels.lookup k.name <;> rfl

theorem steady_runKernel (kernel : KernelHandle) (s : Simulator) :
    Steady s (stateOf (runKernel kernel s)) := by
  rw [runKernel_eq]
  cases s.kernels.get? kernel with
  | none => exact Steady.refl s
  | some k =>
    dsimp only
    cases s.hostKernels.lookup k.name with
    | none => exact Steady.refl s
    | some program =>
      exact ⟨rfl, contains_run k.args program s.buffers, fun sized => sized.run k.args program⟩

/-- Carrying out a command changes only the memories and the runs, also if it fails half way. -/
theorem steady_execute (command : Command) (s : Simulator) :
    Steady s (stateOf (execute command s)) := by
  cases command with
  | migrate buffers direction => exact steady_migrate direction buffers 0 s
  | task kernel => exact steady_runKernel kernel s

/-! ### One event -/

/-- How the command of an event ran, once it has. -/
def execution? (s : Simulator) (event : EventHandle) : Option Execution :=
  (s.events.get? event).bind (·.execution)

/-- The state after the execution of an event is noted in its record. -/
def noted (s : Simulator) (event : EventHandle) (x : Execution) : Simulator :=
  { s with events := s.events.modify event fun r => { r with execution := some x } }

theorem advanced_noted (s : Simulator) (event : EventHandle) (x : Execution) :
    Advanced s (s.noted event x) where
  rest := rfl
  buffers _ := rfl
  sized := id
  events e := by
    rw [noted, Table.get?_modify]
    split
    · rw [Option.map_map]
      rfl
    · rfl

theorem runEvent_eq (submitted earliest : Nat) (event : EventHandle) (s : Simulator) :
    runEvent submitted earliest event s = match s.events.get? event with
      | none => .error .invalidEvent s
      | some record =>
        match s.readyAt submitted record.wait with
        | none => .error .invalidEvent s
        | some ready =>
          match execute record.command s with
          | .error status t => .error status t
          | .ok cost t =>
            .ok (max ready earliest + cost)
              (t.noted event ⟨submitted, max ready earliest, max ready earliest + cost⟩) := by
  rw [runEvent, get_bind, require_bind]
  cases s.events.get? event with
  | none => rfl
  | some record =>
    dsimp only
    rw [require_bind]
    cases s.readyAt submitted record.wait with
    | none => rfl
    | some ready =>
      dsimp only
      rw [bind_apply]
      cases execute record.command s <;> rfl

theorem advanced_runEvent (submitted earliest : Nat) (event : EventHandle) (s : Simulator) :
    Advanced s (stateOf (runEvent submitted earliest event s)) := by
  rw [runEvent_eq]
  cases s.events.get? event with
  | none => exact Advanced.refl s
  | some record =>
    dsimp only
    cases s.readyAt submitted record.wait with
    | none => exact Advanced.refl s
    | some ready =>
      have steady := (steady_execute record.command s).advanced
      dsimp only
      cases ran : execute record.command s with
      | error status t => rwa [ran] at steady
      | ok cost t =>
        rw [ran] at steady
        exact steady.trans (advanced_noted t event _)

/-- What is awaited has ended by the time at which it is ready. -/
theorem ended_of_readyAt {start ready : Nat} {wait : List EventHandle}
    (found : s.readyAt start wait = some ready) :
    start ≤ ready ∧ ∀ w ∈ wait, ∃ x, s.execution? w = some x ∧ x.ended ≤ ready := by
  rw [readyAt] at found
  induction wait generalizing start with
  | nil =>
    cases found
    exact ⟨Nat.le_refl _, fun w mem => absurd mem List.not_mem_nil⟩
  | cons w rest ih =>
    rw [List.foldlM_cons] at found
    obtain ⟨time, first, found⟩ := Option.bind_eq_some_iff.1 found
    obtain ⟨ended, known, rfl⟩ := Option.map_eq_some_iff.1 first
    obtain ⟨x, ran, rfl⟩ := Option.map_eq_some_iff.1 known
    obtain ⟨later, others⟩ := ih found
    refine ⟨by omega, fun v mem => ?_⟩
    rcases List.mem_cons.1 mem with rfl | mem
    · exact ⟨x, ran, by omega⟩
    · exact others v mem

/-- A command that runs has its execution noted: it began when all that it waits for had ended, and
it ended when the answer says. -/
theorem runEvent_ok {submitted earliest ended : Nat} {event : EventHandle}
    (ran : runEvent submitted earliest event s = .ok ended t) :
    ∃ r x, s.events.get? event = some r ∧
      t.events = s.events.modify event (fun r => { r with execution := some x }) ∧
      x.ended = ended ∧ x.started ≤ x.ended ∧
      ∀ w ∈ r.wait, ∃ y, s.execution? w = some y ∧ y.ended ≤ x.started := by
  rw [runEvent_eq] at ran
  cases found : s.events.get? event with
  | none => simp [found] at ran
  | some record =>
    cases ready : s.readyAt submitted record.wait with
    | none => simp [found, ready] at ran
    | some time =>
      have steady := steady_execute record.command s
      cases executed : execute record.command s with
      | error status u => simp [found, ready, executed] at ran
      | ok cost u =>
        simp only [found, ready, executed, EStateM.Result.ok.injEq, stateOf_ok] at ran steady
        obtain ⟨rfl, rfl⟩ := ran
        refine ⟨record, ⟨submitted, max time earliest, max time earliest + cost⟩, rfl, ?_, rfl,
          Nat.le_add_right _ _, fun w mem => ?_⟩
        · rw [noted, steady.events]
        · obtain ⟨y, awaited, by_time⟩ := (ended_of_readyAt ready).2 w mem
          exact ⟨y, awaited, Nat.le_trans by_time (Nat.le_max_left _ _)⟩

/-- A command that does not run changes no record. -/
theorem events_of_runEvent_error {submitted earliest : Nat} {event : EventHandle} {status : Status}
    (failed : runEvent submitted earliest event s = .error status t) : t.events = s.events := by
  rw [runEvent_eq] at failed
  cases found : s.events.get? event with
  | none =>
    rw [found] at failed
    cases failed
    rfl
  | some record =>
    cases ready : s.readyAt submitted record.wait with
    | none =>
      simp only [found, ready] at failed
      cases failed
      rfl
    | some time =>
      have steady := steady_execute record.command s
      cases executed : execute record.command s with
      | ok cost u => simp [found, ready, executed] at failed
      | error status' u =>
        simp only [found, ready, executed] at failed
        cases failed
        rw [executed] at steady
        exact steady.events

theorem execution?_noted {x : Execution} {event : EventHandle} {r : EventRecord}
    (found : s.events.get? event = some r)
    (events : t.events = s.events.modify event fun r => { r with execution := some x }) :
    t.execution? event = some x := by
  rw [execution?, events, Table.get?_modify_self, found]
  rfl

/-- An event whose command has run has an execution that ended when the answer says. -/
theorem execution?_of_runEvent {submitted earliest ended : Nat} {event : EventHandle}
    (ran : runEvent submitted earliest event s = .ok ended t) :
    ∃ x, t.execution? event = some x ∧ x.ended = ended := by
  obtain ⟨r, x, found, events, ended, -⟩ := runEvent_ok ran
  exact ⟨x, execution?_noted found events, ended⟩

/-! ### All events of a queue -/

theorem runEvents_cons (submitted : Nat) (inOrder : Bool) (lastEnd : Nat) (event : EventHandle)
    (rest : List EventHandle) (s : Simulator) :
    runEvents submitted inOrder lastEnd (event :: rest) s =
      match runEvent submitted (if inOrder then lastEnd else 0) event s with
      | .error status t => .error status t
      | .ok ended t => runEvents submitted inOrder (max lastEnd ended) rest t := by
  rw [runEvents, bind_apply]
  cases runEvent submitted (if inOrder then lastEnd else 0) event s <;> rfl

theorem advanced_runEvents (submitted : Nat) (inOrder : Bool) (lastEnd : Nat)
    (events : List EventHandle) (s : Simulator) :
    Advanced s (stateOf (runEvents submitted inOrder lastEnd events s)) := by
  induction events generalizing lastEnd s with
  | nil => exact Advanced.refl s
  | cons event rest ih =>
    have first := advanced_runEvent submitted (if inOrder then lastEnd else 0) event s
    rw [runEvents_cons]
    cases ran : runEvent submitted (if inOrder then lastEnd else 0) event s with
    | error status t => rwa [ran] at first
    | ok ended t =>
      rw [ran] at first
      exact first.trans (ih (max lastEnd ended) t)

/-- The events whose commands are carried out before the first one that cannot run, each with what
its record says of the execution right afterwards. -/
def performed (submitted : Nat) (inOrder : Bool) :
    (lastEnd : Nat) → List EventHandle → Simulator → List (EventHandle × Option Execution)
  | _, [], _ => []
  | lastEnd, event :: rest, s =>
    match runEvent submitted (if inOrder then lastEnd else 0) event s with
    | .error _ _ => []
    | .ok ended t =>
      (event, t.execution? event) :: performed submitted inOrder (max lastEnd ended) rest t

/-- Events were carried out, all of them by an instant. -/
def EndedBy (last : Nat) (done : List (EventHandle × Option Execution)) : Prop :=
  ∀ c ∈ done, ∃ x, c.2 = some x ∧ x.ended ≤ last

section
variable {submitted lastEnd last : Nat} {inOrder : Bool} {events : List EventHandle}

/-- Events that all run are all carried out, by the answered instant. -/
theorem performed_of_ok (ran : runEvents submitted inOrder lastEnd events s = .ok last t) :
    (performed submitted inOrder lastEnd events s).map (·.1) = events ∧ lastEnd ≤ last ∧
      EndedBy last (performed submitted inOrder lastEnd events s) := by
  induction events generalizing lastEnd s with
  | nil =>
    obtain ⟨rfl, rfl⟩ : lastEnd = last ∧ s = t := by simpa [runEvents, pure_apply] using ran
    exact ⟨rfl, Nat.le_refl lastEnd, fun c mem => absurd mem List.not_mem_nil⟩
  | cons event rest ih =>
    rw [runEvents_cons] at ran
    rw [performed]
    cases first : runEvent submitted (if inOrder then lastEnd else 0) event s with
    | error status u => simp [first] at ran
    | ok ended u =>
      rw [first] at ran
      obtain ⟨events, later, by_last⟩ := ih ran
      obtain ⟨x, noted, rfl⟩ := execution?_of_runEvent first
      refine ⟨congrArg (event :: ·) events, by omega, fun c mem => ?_⟩
      rcases List.mem_cons.1 mem with rfl | mem
      · exact ⟨x, noted, by omega⟩
      · exact by_last c mem

/-- When some event cannot run, those before it are carried out and it is not. -/
theorem performed_of_error {status : Status}
    (failed : runEvents submitted inOrder lastEnd events s = .error status t) :
    ∃ done event rest, events = done ++ event :: rest ∧
      (performed submitted inOrder lastEnd events s).map (·.1) = done ∧
      ∀ c ∈ performed submitted inOrder lastEnd events s, ∃ x, c.2 = some x := by
  induction events generalizing lastEnd s with
  | nil => simp [runEvents, pure_apply] at failed
  | cons event rest ih =>
    rw [runEvents_cons] at failed
    rw [performed]
    cases first : runEvent submitted (if inOrder then lastEnd else 0) event s with
    | error status u => exact ⟨[], event, rest, rfl, rfl, fun c mem => absurd mem List.not_mem_nil⟩
    | ok ended u =>
      rw [first] at failed
      obtain ⟨done, stuck, left, rfl, performed, noted⟩ := ih failed
      obtain ⟨x, recorded, -⟩ := execution?_of_runEvent first
      refine ⟨event :: done, stuck, left, rfl, congrArg (event :: ·) performed, fun c mem => ?_⟩
      rcases List.mem_cons.1 mem with rfl | mem
      · exact ⟨x, recorded⟩
      · exact noted c mem

end

/-! ### Starting a queue -/

/-- The state in which the commands of a queue are about to be carried out. -/
def taken (s : Simulator) (queue : QueueHandle) : Simulator :=
  { s with queues := s.queues.modify queue fun q => { q with pending := [] } }

/-- The state after the commands of a queue have run. -/
def settled (s : Simulator) (queue : QueueHandle) (lastEnd : Nat) : Simulator :=
  { s with queues := s.queues.modify queue fun q => { q with lastEnd } }.collectReleased

theorem runPending_eq (queue : QueueHandle) (s : Simulator) :
    runPending queue s = match s.queues.get? queue with
      | none => .error .invalidValue s
      | some q =>
        match runEvents s.clock (!q.properties.outOfOrder) q.lastEnd q.pending (s.taken queue) with
        | .error status t => .error status t
        | .ok lastEnd t => .ok () (t.settled queue lastEnd) := by
  rw [runPending, get_bind, require_bind]
  cases s.queues.get? queue with
  | none => rfl
  | some q =>
    dsimp only
    rw [set_bind, bind_apply]
    rw [taken]
    cases runEvents s.clock (!q.properties.outOfOrder) q.lastEnd q.pending _ <;> rfl

theorem finish_eq (queue : QueueHandle) (s : Simulator) :
    finish queue s = match runPending queue s with
      | .error status t => .error status t
      | .ok _ t => .ok () { t with
          clock := max t.clock (((t.queues.get? queue).map (·.lastEnd)).getD 0) } := by
  rw [finish, bind_apply]
  cases runPending queue s <;> rfl

/-- What the start of a queue carries out. -/
def startOf (s : Simulator) (queue : QueueHandle) : List (EventHandle × Option Execution) :=
  match s.queues.get? queue with
  | none => []
  | some q =>
    performed s.clock (!q.properties.outOfOrder) q.lastEnd q.pending (s.taken queue)

end FpgaHost.Simulator
