import FpgaHost.Proofs.Simulator.Completion
import FpgaHost.Proofs.Simulator.Reachable
import FpgaHost.Proofs.Simulator.Rounds

/-!
# Chronicles

A `Chronicle` follows all that happens to a simulator, from the one that has nothing, and keeps what
the simulator itself forgets: every command that was put into a queue, every start of a queue with
what it carried out, and every event that was given back. A simulator can be set up further at any
time, also between two requests, so a history is a list of set-ups and requests. Nothing is assumed
of it: requests may be refused, starts may fail half way, events may be given back while their
commands are pending.

Main statements: `turn_next`, which says once what a happening can do to a chronicle, and
`of_induction`, by which what every such turn keeps is true of every history.
-/

namespace FpgaHost

open Simulator Steps

/-! ### Histories -/

/-- What can happen to a simulator. -/
inductive Happening where
  /-- A platform is added. -/
  | platform (vendor : String) (devices : List SimulatedDevice)
  /-- How long kernels run is set. -/
  | kernelTime (time : Nat)
  /-- How fast bytes move is set. -/
  | bandwidth (bytes : Nat)
  /-- Something to be run in place of a kernel is set. -/
  | hostKernel (name : String) (kernel : HostKernel)
  /-- A request is made. -/
  | request (r : Request)

/-- A command that was put into a queue. -/
structure Commission where
  /-- The queue. -/
  queue : QueueHandle
  /-- The event that stands for the command. -/
  event : EventHandle
  /-- The command. -/
  command : Command
  /-- The events that it waits for. -/
  wait : List EventHandle
  /-- When it was put into the queue. -/
  queued : Nat
  deriving DecidableEq, Repr

/-- A start of a queue that is there. -/
structure Round where
  /-- The simulator as it was before. -/
  before : Simulator
  /-- The queue. -/
  queue : QueueHandle
  /-- Whether the start succeeded. -/
  succeeded : Bool

/-- The commands that a start carried out, and how they ran. -/
def Round.runs (round : Round) : List (EventHandle × Execution) := round.before.runsOf round.queue

/-- A simulator, and what happened to it. -/
structure Chronicle where
  /-- The simulator. -/
  state : Simulator := {}
  /-- The commands put into queues so far, in order. -/
  commissions : List Commission := []
  /-- The starts of queues so far, in order. -/
  rounds : List Round := []
  /-- The events given back so far, in order. -/
  returned : List EventHandle := []

namespace Simulator

/-- Whether an outcome is an answer. -/
def answers {ε σ α : Type} : EStateM.Result ε σ α → Bool
  | .ok _ _ => true
  | .error _ _ => false

/-- The command that a submission puts into a queue, if it is accepted. -/
def commissionedAs (queue : QueueHandle) (command : Command) (wait : List EventHandle) :
    EStateM.Result Status Simulator EventHandle → List Commission
  | .ok event t => [{ queue, event, command, wait, queued := t.clock }]
  | .error _ _ => []

/-- The command that a request puts into a queue, if it is accepted. -/
def commissionedBy (s : Simulator) : Request → List Commission
  | .enqueueMigrate queue buffers direction wait =>
    commissionedAs queue (.migrate buffers direction) wait
      (enqueueMigrate queue buffers direction wait s)
  | .enqueueTask queue kernel wait =>
    commissionedAs queue (.task kernel) wait (enqueueTask queue kernel wait s)
  | _ => []

/-- The event that a request gives back, if it is not refused. -/
def returnedBy (s : Simulator) : Request → List EventHandle
  | .releaseEvent event => if answers (releaseEvent event s) then [event] else []
  | _ => []

/-- The start of a queue that a request is, if the queue is there. -/
def roundsBy (s : Simulator) (r : Request) : List Round :=
  match r.starts? with
  | none => []
  | some queue =>
    if s.queues.contains queue then [⟨s, queue, answers (ComputeApi.call r s)⟩] else []

end Simulator

namespace Chronicle

/-- The chronicle after one more request. -/
def asked (c : Chronicle) (r : Request) : Chronicle where
  state := c.state.next r
  commissions := c.commissions ++ c.state.commissionedBy r
  rounds := c.rounds ++ c.state.roundsBy r
  returned := c.returned ++ c.state.returnedBy r

/-- The chronicle after one more happening. -/
def next (c : Chronicle) : Happening → Chronicle
  | .platform vendor devices => { c with state := c.state.withPlatform vendor devices }
  | .kernelTime time => { c with state := c.state.withKernelTime time }
  | .bandwidth bytes => { c with state := c.state.withBandwidth bytes }
  | .hostKernel name kernel => { c with state := c.state.withHostKernel name kernel }
  | .request r => c.asked r

/-- The chronicle after more happenings. -/
def run (c : Chronicle) (history : List Happening) : Chronicle := history.foldl next c

/-- The chronicle of a history from its beginning. -/
def of (history : List Happening) : Chronicle := run {} history

/-- The commands carried out so far and how they ran, in order. -/
def log (c : Chronicle) : List (EventHandle × Execution) := c.rounds.flatMap (·.runs)

/-- What a chronicle tells of the commands that queues accepted and completed. -/
def trace (c : Chronicle) : Trace where
  state := c.state
  accepted := c.commissions.map fun o => (o.queue, o.event)
  completed := completions c.log
  failed := (c.rounds.filter fun round => !round.succeeded).map (·.queue)

theorem run_append (c : Chronicle) (before after : List Happening) :
    c.run (before ++ after) = (c.run before).run after :=
  List.foldl_append

theorem of_append (before after : List Happening) :
    of (before ++ after) = (of before).run after :=
  run_append {} before after

/-! ### What a happening does -/

/-- Queues, records of events and the clock are the same. -/
structure Untouched (s u : Simulator) : Prop where
  /-- The queues are the same. -/
  queues : u.queues = s.queues
  /-- The records are the same. -/
  events : u.events = s.events
  /-- The time is the same. -/
  clock : u.clock = s.clock
  /-- Handles are numbered upwards. -/
  nextId : s.nextId ≤ u.nextId

/-- What one happening can do to a chronicle. -/
inductive Turn (c : Chronicle) : Chronicle → Prop
  /-- No queue and no event is reached. -/
  | quiet {u : Simulator} (same : Untouched c.state u) : Turn c { c with state := u }
  /-- A queue is made. -/
  | created (properties : QueueProperties) : Turn c { c with state := { c.state with
      nextId := c.state.nextId + 1
      queues := c.state.queues.insert ⟨c.state.nextId⟩ { properties } } }
  /-- A command is put into a queue. -/
  | commissioned {queue : QueueHandle} {q : Queue} (found : c.state.queues.get? queue = some q)
      (command : Command) {wait : List EventHandle}
      (live : ∀ w ∈ wait, (c.state.liveEvent? w).isSome) : Turn c { c with
        state := c.state.submitted queue q.properties.profiling command wait
        commissions := c.commissions ++
          [⟨queue, ⟨c.state.nextId⟩, command, wait, c.state.clock + enqueueTime⟩] }
  /-- An event is given back. -/
  | returned {event : EventHandle} (live : (c.state.liveEvent? event).isSome) : Turn c { c with
      state := c.state.eventReleased event, returned := c.returned ++ [event] }
  /-- A queue is started, whether this answers or fails half way. -/
  | started {queue : QueueHandle} {q : Queue} {outcome : EStateM.Result Status Simulator Unit}
      (found : c.state.queues.get? queue = some q)
      (launch : Launch c.state queue q (c.state.runsOf queue) outcome) : Turn c { c with
        state := stateOf outcome, rounds := c.rounds ++ [⟨c.state, queue, answers outcome⟩] }

theorem turn_self (c : Chronicle) : Turn c c := .quiet ⟨rfl, rfl, rfl, Nat.le_refl _⟩

theorem asked_of_quiet (c : Chronicle) {r : Request} (quiet : r.isQuiet)
    (keeps : ∀ e, r ≠ .releaseEvent e) : c.asked r = { c with state := c.state.next r } := by
  have commissions : c.state.commissionedBy r = [] := by
    cases r <;> first | rfl | contradiction
  have rounds : c.state.roundsBy r = [] := by
    cases r <;> first | rfl | contradiction
  have returned : c.state.returnedBy r = [] := by
    cases r with
    | releaseEvent event => exact absurd rfl (keeps event)
    | _ => rfl
  simp only [asked, commissions, rounds, returned, List.append_nil]

theorem turn_of_quiet (c : Chronicle) {r : Request} (quiet : r.isQuiet)
    (keeps : ∀ e, r ≠ .releaseEvent e) : Turn c (c.asked r) := by
  have does := does_next c.state r
  rw [asked_of_quiet c quiet keeps]
  refine .quiet ⟨(quiet_next c.state quiet).1, ?_, ?_, (quiet_next c.state quiet).2⟩
  all_goals
    generalize c.state.next r = u at does
    cases does with
    | releaseEvent event => exact absurd rfl (keeps event)
    | submit loud queue profiling command wait => simp [quiet] at loud
    | stop loud queue advanced => simp [quiet] at loud
    | start loud queue advanced lastEnd clock => simp [quiet] at loud
    | _ => rfl

theorem turn_releaseEvent (c : Chronicle) (event : EventHandle) :
    Turn c (c.asked (.releaseEvent event)) := by
  simp only [asked, commissionedBy, roundsBy, Request.starts?, returnedBy, Simulator.next,
    ComputeApi.call, releaseEvent_eq, List.append_nil]
  cases found : c.state.liveEvent? event with
  | none => simpa [answers] using turn_self c
  | some r => exact .returned (by rw [found]; rfl)

theorem turn_createQueue (c : Chronicle) (context : ContextHandle) (device : DeviceId)
    (properties : QueueProperties) : Turn c (c.asked (.createQueue context device properties)) := by
  simp only [asked, commissionedBy, roundsBy, Request.starts?, returnedBy, Simulator.next,
    ComputeApi.call, createQueue_eq, List.append_nil]
  split
  · exact turn_self c
  · exact .created properties

/-- A submission turns a chronicle, whether it is accepted or refused. -/
theorem turn_submit (c : Chronicle) (queue : QueueHandle) (command : Command)
    (wait : List EventHandle) : Turn c { c with
      state := stateOf (submit queue command wait c.state)
      commissions := c.commissions ++
        commissionedAs queue command wait (submit queue command wait c.state) } := by
  rw [submit_eq]
  split
  · simpa [commissionedAs] using turn_self c
  next live =>
    cases found : c.state.queues.get? queue with
    | none => simpa [commissionedAs] using turn_self c
    | some q =>
      refine .commissioned found command fun w mem => ?_
      rw [Option.isSome_iff_ne_none, Ne, ← Option.isNone_iff_eq_none]
      exact fun none => live (List.any_eq_true.2 ⟨w, mem, none⟩)

theorem turn_enqueueMigrate (c : Chronicle) (queue : QueueHandle) (buffers : List BufferHandle)
    (direction : Direction) (wait : List EventHandle) :
    Turn c (c.asked (.enqueueMigrate queue buffers direction wait)) := by
  simp only [asked, commissionedBy, roundsBy, Request.starts?, returnedBy, Simulator.next,
    ComputeApi.call, enqueueMigrate_eq, List.append_nil]
  split
  · simpa [commissionedAs] using turn_self c
  · split
    · simpa [commissionedAs] using turn_self c
    · exact turn_submit c queue (.migrate buffers direction) wait

theorem turn_enqueueTask (c : Chronicle) (queue : QueueHandle) (kernel : KernelHandle)
    (wait : List EventHandle) : Turn c (c.asked (.enqueueTask queue kernel wait)) := by
  simp only [asked, commissionedBy, roundsBy, Request.starts?, returnedBy, Simulator.next,
    ComputeApi.call, enqueueTask_eq, List.append_nil]
  split
  · simpa [commissionedAs] using turn_self c
  · exact turn_submit c queue (.task kernel) wait

theorem asked_of_starts (c : Chronicle) {r : Request} {queue : QueueHandle}
    (starts : r.starts? = some queue) : c.asked r = { c with
      state := c.state.next r
      rounds := c.rounds ++ if c.state.queues.contains queue then
        [⟨c.state, queue, answers (ComputeApi.call r c.state)⟩] else [] } := by
  have commissions : c.state.commissionedBy r = [] := by
    cases r <;> first | rfl | contradiction
  have returned : c.state.returnedBy r = [] := by
    cases r <;> first | rfl | contradiction
  simp only [asked, roundsBy, starts, commissions, returned, List.append_nil]

/-- The start of a queue turns a chronicle, whatever it comes to; without such a queue it does
nothing. -/
theorem turn_of_start (c : Chronicle) {queue : QueueHandle}
    {outcome : EStateM.Result Status Simulator Unit}
    (unknown : c.state.queues.get? queue = none → stateOf outcome = c.state)
    (launch : ∀ q, c.state.queues.get? queue = some q →
      Launch c.state queue q (c.state.runsOf queue) outcome) : Turn c { c with
      state := stateOf outcome
      rounds := c.rounds ++ if c.state.queues.contains queue then
        [⟨c.state, queue, answers outcome⟩] else [] } := by
  cases found : c.state.queues.get? queue with
  | none =>
    have absent := Table.contains_eq_false_iff.2 found
    simpa [absent, unknown found] using turn_self c
  | some q =>
    have present := Table.contains_iff.2 ⟨q, found⟩
    simpa [present] using Turn.started found (launch q found)

theorem turn_flush (c : Chronicle) (sized : BufferTable.Sized c.state.buffers)
    (queue : QueueHandle) : Turn c (c.asked (.flush queue)) := by
  rw [asked_of_starts c rfl]
  refine turn_of_start c (fun missing => ?_) fun q found => launch_runPending sized found
  have refused : stateOf (runPending queue c.state) = c.state := by
    rw [runPending_eq, missing]
    rfl
  exact refused

theorem turn_finish (c : Chronicle) (sized : BufferTable.Sized c.state.buffers)
    (queue : QueueHandle) : Turn c (c.asked (.finish queue)) := by
  rw [asked_of_starts c rfl]
  refine turn_of_start c (fun missing => ?_) fun q found => launch_finish sized found
  have refused : stateOf (finish queue c.state) = c.state := by
    rw [finish_eq, runPending_eq, missing]
    rfl
  exact refused

/-- Every request does one of five things to a chronicle. -/
theorem turn_asked (c : Chronicle) (sized : BufferTable.Sized c.state.buffers) (r : Request) :
    Turn c (c.asked r) := by
  by_cases quiet : r.isQuiet
  · by_cases keeps : ∃ e, r = .releaseEvent e
    · obtain ⟨e, rfl⟩ := keeps
      exact turn_releaseEvent c e
    · exact turn_of_quiet c quiet fun e same => keeps ⟨e, same⟩
  cases r with
  | createQueue context device properties => exact turn_createQueue c context device properties
  | enqueueMigrate queue buffers direction wait =>
    exact turn_enqueueMigrate c queue buffers direction wait
  | enqueueTask queue kernel wait => exact turn_enqueueTask c queue kernel wait
  | flush queue => exact turn_flush c sized queue
  | finish queue => exact turn_finish c sized queue
  | _ => exact absurd rfl quiet

/-- So does every happening. -/
theorem turn_next (c : Chronicle) (sized : BufferTable.Sized c.state.buffers) (h : Happening) :
    Turn c (c.next h) := by
  cases h with
  | request r => exact turn_asked c sized r
  | _ => exact .quiet ⟨rfl, rfl, rfl, Nat.le_refl _⟩

/-! ### Traces of chronicles -/

variable {c u : Chronicle}

theorem log_append (c : Chronicle) (state : Simulator) (round : Round) :
    log { c with state, rounds := c.rounds ++ [round] } = c.log ++ round.runs := by
  rw [log, List.flatMap_append, List.flatMap_singleton]
  rfl

/-- What a turn does to the commands that queues accepted and completed. -/
theorem Turn.change (turn : Turn c u) : Trace.Change c.trace u.trace := by
  cases turn with
  | quiet same => exact .quiet same.queues same.nextId
  | created properties => exact .created (q := { properties }) rfl rfl rfl
  | @commissioned queue q found command wait live =>
    have submitted := Trace.Change.submitted (t := c.trace)
      (u := c.state.submitted queue q.properties.profiling command wait) found rfl rfl
    simpa [trace, log] using submitted
  | returned live => exact .quiet rfl (Nat.le_refl _)
  | @started queue q outcome found launch =>
    have drained := drained_taken found
    cases launch with
    | @succeeded last v carried all clock later =>
      obtain ⟨grown, by_last, -⟩ := carried.last_eq
      have ended : EndedBy last (completions (c.state.runsOf queue)) := by
        intro run mem
        obtain ⟨x, same, there⟩ := mem_completions mem
        exact ⟨x, same, by_last (run.1, x) there⟩
      have started := Trace.Change.started (t := c.trace) found
        (((drained.advanced carried.advanced).settled last).timed clock)
        ((events_completions _).trans all) grown ended
      simpa [trace, log_append, answers, Round.runs, completions] using started
    | @failed last v w stuck rest status carried pending stopped =>
      rw [← events_completions] at pending
      have broken := Trace.Change.broken (t := c.trace) found
        (drained.advanced (carried.advanced_stopped stopped)) pending
        fun run mem => (mem_completions mem).imp fun _ there => there.1
      simpa [trace, log_append, answers, Round.runs, completions] using broken

/-! ### Histories one happening after the other -/

/-- No request changes how long kernels run. -/
theorem kernelTime_next (s : Simulator) (r : Request) : (s.next r).kernelTime = s.kernelTime := by
  have does := does_next s r
  generalize s.next r = t at does
  cases does with
  | stop loud queue advanced => rw [advanced.rest]; rfl
  | @start r u loud queue advanced lastEnd clock =>
    have same : u.kernelTime = s.kernelTime := by rw [advanced.rest]; rfl
    exact same
  | _ => rfl

/-- What is true of all chronicles. -/
structure Sound (c : Chronicle) : Prop where
  /-- The simulator is reachable. -/
  reachable : c.state.Reachable
  /-- Kernels take some time. -/
  takes : 0 < c.state.kernelTime
  /-- The trace is sound. -/
  trace : c.trace.Sound

theorem sound_start : Sound {} := by
  have unused : Simulator.Unused {} := ⟨rfl, rfl, rfl, rfl, rfl, rfl, rfl⟩
  exact ⟨.start unused, by decide, Trace.sound_start unused⟩

theorem Sound.next (sound : c.Sound) (h : Happening) : (c.next h).Sound := by
  have trace := sound.trace.change (turn_next c sound.reachable.sized h).change
  have reachable := sound.reachable
  cases h with
  | platform vendor devices => exact ⟨reachable.setUp _ _ _ _ _, sound.takes, trace⟩
  | kernelTime time => exact ⟨reachable.setUp _ _ _ _ _, Nat.le_max_right _ _, trace⟩
  | bandwidth bytes => exact ⟨reachable.setUp _ _ _ _ _, sound.takes, trace⟩
  | hostKernel name kernel => exact ⟨reachable.setUp _ _ _ _ _, sound.takes, trace⟩
  | request r =>
    have takes := sound.takes
    rw [← kernelTime_next c.state r] at takes
    exact ⟨reachable.next r, takes, trace⟩

/-- No command is carried out twice. -/
theorem Sound.once (sound : c.Sound) : (c.log.map (·.1)).Nodup := by
  have once := sound.trace.once
  rwa [Trace.completedEvents, Chronicle.trace, events_completions] at once

/-- What every turn of a sound chronicle keeps is kept by more happenings. -/
theorem run_induction {motive : Chronicle → Prop}
    (step : ∀ c u, c.Sound → u.Sound → motive c → Turn c u → motive u) (sound : c.Sound)
    (start : motive c) (history : List Happening) :
    (c.run history).Sound ∧ motive (c.run history) := by
  induction history generalizing c with
  | nil => exact ⟨sound, start⟩
  | cons h rest ih =>
    have later := sound.next h
    exact ih later (step c (c.next h) sound later start (turn_next c sound.reachable.sized h))

/-- What is true at the beginning and kept by every turn of a sound chronicle is true of every
history. -/
theorem of_induction {motive : Chronicle → Prop}
    (step : ∀ c u, c.Sound → u.Sound → motive c → Turn c u → motive u) (start : motive {})
    (history : List Happening) : motive (of history) :=
  (run_induction step sound_start start history).2

theorem sound_of (history : List Happening) : (of history).Sound :=
  (run_induction (motive := fun _ => True) (fun _ _ _ _ _ _ => trivial) sound_start trivial
    history).1

end Chronicle

end FpgaHost
