import FpgaHost.Proofs.Simulator.Timing
import FpgaHost.Proofs.Simulator.Words
import Mathlib.Algebra.Order.Floor.Div

/-!
# Slower simulators are later

Two simulators that differ in times only can be compared: one is `Ahead` of the other if nothing is
later on it. Its clock is not later, no command has been put into a queue, started or ended later,
no queue has become free later, and it is not slower itself. Every request keeps it so, also if the
other simulator makes queues that run in order where this one makes queues that do not
(`Ahead.next`): a command begins at a maximum of instants none of which is later, and lasts no
longer.

That the two agree on everything else, and so on which commands run at all, is `alike_next`. If the
times of the other simulator are words then so are those of the one that is ahead
(`Ahead.inWords`).

Main statement: `later_of_slower`.
-/

namespace FpgaHost

/-! ### What is not later -/

/-- One command ran not later than the other. -/
structure Execution.Ahead (x y : Execution) : Prop where
  /-- Its queue was not started later. -/
  submitted : x.submitted ≤ y.submitted
  /-- It did not begin later. -/
  started : x.started ≤ y.started
  /-- It did not end later. -/
  ended : x.ended ≤ y.ended

/-- Nothing in the one record is later than in the other. -/
structure EventRecord.Ahead (a b : EventRecord) : Prop where
  /-- The command was not put into its queue later. -/
  queued : a.queued ≤ b.queued
  /-- It did not run later, and both have run or neither has. -/
  execution : Option.Rel Execution.Ahead a.execution b.execution

theorem EventRecord.ahead_refl (record : EventRecord) : record.Ahead record where
  queued := Nat.le_refl _
  execution := by
    cases record.execution with
    | none => exact .none
    | some x => exact .some ⟨Nat.le_refl _, Nat.le_refl _, Nat.le_refl _⟩

/-- The one queue makes commands wait no longer than the other. -/
structure Queue.Ahead (p q : Queue) : Prop where
  /-- If commands wait for those before them, they do so on the other. -/
  order : q.properties.outOfOrder = true → p.properties.outOfOrder = true
  /-- It did not become free later. -/
  lastEnd : p.lastEnd ≤ q.lastEnd

/-- Every instant that is known of the one command is known of the other, and is not later. -/
theorem EventRecord.Ahead.instant? {a b : EventRecord} (ahead : a.Ahead b) (instant : Instant) :
    Option.Rel (· ≤ ·) (a.instant? instant) (b.instant? instant) := by
  obtain ⟨queued, execution⟩ := ahead
  simp only [EventRecord.instant?]
  generalize a.execution = x at execution
  generalize b.execution = y at execution
  cases execution with
  | none => cases instant <;> first | exact .some queued | exact .none
  | some ran =>
    cases instant with
    | queued => exact .some queued
    | submitted => exact .some ran.submitted
    | started => exact .some ran.started
    | ended => exact .some ran.ended

/-- If the instants of the other command are words then so are those of the one. -/
theorem EventRecord.Ahead.inWords {a b : EventRecord} (ahead : a.Ahead b) (words : b.InWords) :
    a.InWords := by
  obtain ⟨queued, execution⟩ := ahead
  refine ⟨words.1.of_le queued, fun x ran => ?_⟩
  rw [ran] at execution
  cases other : b.execution with
  | none =>
    rw [other] at execution
    contradiction
  | some y =>
    rw [other] at execution
    cases execution with
    | some ahead =>
      obtain ⟨submitted, started, ended⟩ := words.2 y other
      exact ⟨submitted.of_le ahead.submitted, started.of_le ahead.started, ended.of_le ahead.ended⟩

/-- Two requests are the same, but the second may make a queue that runs in order where the first
makes one that does not. -/
inductive Request.AlikeButOrder : Request → Request → Prop
  /-- They are the same. -/
  | same (r : Request) : AlikeButOrder r r
  /-- They make a queue, the second one in order if the first does. -/
  | createQueue (context : ContextHandle) (device : DeviceId)
      {properties properties' : QueueProperties}
      (order : properties'.outOfOrder = true → properties.outOfOrder = true) :
      AlikeButOrder (.createQueue context device properties)
        (.createQueue context device properties')

namespace Simulator

open Call Steps

/-- Nothing is later on the one simulator than on the other, and otherwise they are the same. -/
structure Ahead (s t : Simulator) : Prop where
  /-- They differ in times only. -/
  alike : s.untimed = t.untimed
  /-- It is not later. -/
  clock : s.clock ≤ t.clock
  /-- Kernels do not run longer. -/
  kernelTime : s.kernelTime ≤ t.kernelTime
  /-- Not fewer bytes move in a unit of time. -/
  bandwidth : t.bandwidth ≤ s.bandwidth
  /-- Bytes do move on the other. -/
  moves : 0 < t.bandwidth
  /-- Commands wait no longer on queues. -/
  queues : Table.Related Queue.Ahead s.queues t.queues
  /-- Nothing has run later. -/
  events : Table.Related EventRecord.Ahead s.events t.events

/-- An instant of the command of an event that has a record. -/
def instantOf? (s : Simulator) (e : EventHandle) (instant : Instant) : Option Nat :=
  (s.events.get? e).bind (·.instant? instant)

variable {s t : Simulator} {r r' : Request}

namespace Ahead

theorem instantOf? (ahead : Ahead s t) (e : EventHandle) (instant : Instant) :
    Option.Rel (· ≤ ·) (s.instantOf? e instant) (t.instantOf? e instant) := by
  have records := ahead.events e
  rw [Simulator.instantOf?, Simulator.instantOf?]
  generalize s.events.get? e = first at records
  generalize t.events.get? e = second at records
  cases records with
  | none => exact .none
  | some records => exact records.instant? instant

/-- The other simulator has the records of the same events. -/
theorem record (ahead : Ahead s t) {e : EventHandle} {a b : EventRecord}
    (one : s.events.get? e = some a) (other : t.events.get? e = some b) : a.untimed = b.untimed := by
  have same := congrArg (·.events.get? e) ahead.alike
  simpa [one, other] using same

/-- The other simulator has the same queues. -/
theorem queue (ahead : Ahead s t) {k : QueueHandle} {p q : Queue}
    (one : s.queues.get? k = some p) (other : t.queues.get? k = some q) : p.untimed = q.untimed := by
  have same := congrArg (·.queues.get? k) ahead.alike
  simpa [one, other] using same

theorem buffers_eq (ahead : Ahead s t) : s.buffers = t.buffers :=
  (congrArg Simulator.buffers ahead.alike :)

theorem kernels_eq (ahead : Ahead s t) : s.kernels = t.kernels :=
  (congrArg Simulator.kernels ahead.alike :)

theorem hostKernels_eq (ahead : Ahead s t) : s.hostKernels = t.hostKernels :=
  (congrArg Simulator.hostKernels ahead.alike :)

theorem runs_eq (ahead : Ahead s t) : s.runs = t.runs :=
  (congrArg Simulator.runs ahead.alike :)

theorem contexts_eq (ahead : Ahead s t) : s.contexts = t.contexts :=
  (congrArg Simulator.contexts ahead.alike :)

theorem nextId_eq (ahead : Ahead s t) : s.nextId = t.nextId :=
  (congrArg Simulator.nextId ahead.alike :)

/-! ### Changes that keep a simulator ahead -/

/-- The same is written to memories. -/
theorem written (ahead : Ahead s t) (buffers : BufferTable) :
    Ahead { s with buffers } { t with buffers } :=
  { ahead with alike := congrArg (fun u : Simulator => { u with buffers }) ahead.alike }

/-- The same host kernels have run. -/
theorem ran (ahead : Ahead s t) (runs : List KernelRun) :
    Ahead { s with runs } { t with runs } :=
  { ahead with alike := congrArg (fun u : Simulator => { u with runs }) ahead.alike }

/-- A command has run that was not later. -/
theorem noted (ahead : Ahead s t) (event : EventHandle) {x y : Execution} (earlier : x.Ahead y) :
    Ahead (s.noted event x) (t.noted event y) :=
  { ahead with
    alike := by rw [untimed_noted, untimed_noted, ahead.alike]
    events := ahead.events.modify event fun _ _ _ _ before => ⟨before.queued, .some earlier⟩ }

/-- What is pending is taken off a queue. -/
theorem taken (ahead : Ahead s t) (queue : QueueHandle) : Ahead (s.taken queue) (t.taken queue) :=
  { ahead with
    alike := by rw [untimed_taken, untimed_taken, ahead.alike]
    queues := ahead.queues.modify queue fun _ _ _ _ before => ⟨before.order, before.lastEnd⟩ }

/-- Records are dropped. They are those of the same events, since it is the same events that are
given back and that pending commands need. -/
theorem collected (ahead : Ahead s t) : Ahead s.collectReleased t.collectReleased := by
  have pinned : s.pinned = t.pinned := by
    rw [← untimed_pinned s, ← untimed_pinned t, ahead.alike]
  refine { ahead with alike := ?_, events := ahead.events.filter fun e a b one other => ?_ }
  · rw [untimed_collectReleased, untimed_collectReleased, ahead.alike]
  · have released : a.released = b.released := (congrArg EventRecord.released (ahead.record one other) :)
    rw [released, pinned]

/-- A queue has become free, and not later. -/
theorem settled (ahead : Ahead s t) (queue : QueueHandle) {last last' : Nat} (earlier : last ≤ last') :
    Ahead (s.settled queue last) (t.settled queue last') := by
  have freed : Ahead { s with queues := s.queues.modify queue fun q => { q with lastEnd := last } }
      { t with queues := t.queues.modify queue fun q => { q with lastEnd := last' } } :=
    { ahead with
      alike := by rw [untimed_freed, untimed_freed, ahead.alike]
      queues := ahead.queues.modify queue fun _ _ _ _ before => ⟨before.order, earlier⟩ }
  exact freed.collected

/-- A command is put into a queue. -/
theorem submitted (ahead : Ahead s t) (queue : QueueHandle) (profiling profiling' : Bool)
    (command : Command) (wait : List EventHandle) :
    Ahead (s.submitted queue profiling command wait) (t.submitted queue profiling' command wait) := by
  have clock := Nat.add_le_add_right ahead.clock enqueueTime
  refine { ahead with
    alike := ?_
    clock := clock
    queues := ?_
    events := ?_ }
  · rw [← s.untimed_submitted queue profiling, ← t.untimed_submitted queue profiling, ahead.alike]
  · exact ahead.queues.modify queue fun _ _ _ _ before => ⟨before.order, before.lastEnd⟩
  · have new := ahead.events.insert ⟨s.nextId⟩ (v := ⟨command, wait, profiling, _, none, false⟩)
      (w := ⟨command, wait, profiling', _, none, false⟩) ⟨clock, .none⟩
    rw [Simulator.submitted, Simulator.submitted, ← ahead.nextId_eq]
    exact new

/-- An event is given back. -/
theorem eventReleased (ahead : Ahead s t) (event : EventHandle) :
    Ahead (s.eventReleased event) (t.eventReleased event) := by
  have marked : Ahead
      { s with events := s.events.modify event fun r => { r with released := true } }
      { t with events := t.events.modify event fun r => { r with released := true } } :=
    { ahead with
      alike := by rw [untimed_marked, untimed_marked, ahead.alike]
      events := ahead.events.modify event fun _ _ _ _ before =>
        ⟨before.queued, before.execution⟩ }
  exact marked.collected

end Ahead

/-! ### Outcomes -/

/-- Two outcomes that are the same up to times, the first leaving a simulator that is ahead; their
answers are related in some way. -/
inductive Leads {α : Type} (R : α → α → Prop) :
    EStateM.Result Status Simulator α → EStateM.Result Status Simulator α → Prop
  /-- Both succeed. -/
  | ok {a b : α} {s t : Simulator} (answers : R a b) (states : Ahead s t) :
      Leads R (.ok a s) (.ok b t)
  /-- Both fail with the same status. -/
  | error (status : Status) {s t : Simulator} (states : Ahead s t) :
      Leads R (.error status s) (.error status t)

theorem Leads.stateOf {α : Type} {R : α → α → Prop} {x y : EStateM.Result Status Simulator α}
    (leads : Leads R x y) : Ahead (stateOf x) (stateOf y) := by
  cases leads with
  | ok answers states => exact states
  | error status states => exact states

/-! ### Commands -/

/-- Bytes do not move faster when fewer of them move in a unit of time. -/
theorem moving_le (moved : Nat) {bandwidth bandwidth' : Nat} (moves : 0 < bandwidth')
    (narrower : bandwidth' ≤ bandwidth) :
    (moved + bandwidth - 1) / bandwidth ≤ (moved + bandwidth' - 1) / bandwidth' := by
  rw [← Nat.ceilDiv_eq_add_pred_div, ← Nat.ceilDiv_eq_add_pred_div,
    ceilDiv_le_iff_le_smul (Nat.lt_of_lt_of_le moves narrower), smul_eq_mul]
  have enough : moved ≤ bandwidth' * (moved ⌈/⌉ bandwidth') := le_smul_ceilDiv moves
  exact Nat.le_trans enough (Nat.mul_le_mul_right _ narrower)

theorem leads_migrate (ahead : Ahead s t) (direction : Direction) (moved : Nat)
    (buffers : List BufferHandle) :
    Leads (· ≤ ·) (migrate direction moved buffers s) (migrate direction moved buffers t) := by
  induction buffers generalizing moved s t with
  | nil => exact .ok (Nat.add_le_add_left (moving_le moved ahead.moves ahead.bandwidth) _) ahead
  | cons b rest ih =>
    rw [migrate_cons, migrate_cons, ahead.buffers_eq]
    cases t.buffers.get? b with
    | none => exact .error _ ahead
    | some buffer => exact ih (ahead.written _) _

theorem leads_runKernel (ahead : Ahead s t) (kernel : KernelHandle) :
    Leads (· ≤ ·) (runKernel kernel s) (runKernel kernel t) := by
  have kernels : s.kernels.get? kernel = t.kernels.get? kernel := by rw [ahead.kernels_eq]
  have programs (name : String) : s.hostKernels.lookup name = t.hostKernels.lookup name := by
    rw [ahead.hostKernels_eq]
  rw [runKernel_eq, runKernel_eq, kernels]
  cases t.kernels.get? kernel with
  | none => exact .error _ ahead
  | some k =>
    dsimp only
    rw [programs]
    cases t.hostKernels.lookup k.name with
    | none => exact .ok ahead.kernelTime ahead
    | some program =>
      dsimp only
      rw [ahead.buffers_eq, ahead.runs_eq]
      have written := ahead.written (program.run k.args t.buffers).2
      have ran := written.ran (t.runs ++ [⟨k.name, (program.run k.args t.buffers).1⟩])
      exact .ok ahead.kernelTime ran

/-- A command lasts no longer. -/
theorem leads_execute (ahead : Ahead s t) (command : Command) :
    Leads (· ≤ ·) (execute command s) (execute command t) := by
  cases command with
  | migrate buffers direction => exact leads_migrate ahead direction 0 buffers
  | task kernel => exact leads_runKernel ahead kernel

theorem ended?_le (ahead : Ahead s t) (e : EventHandle) :
    Option.Rel (· ≤ ·) (s.ended? e) (t.ended? e) := by
  have instants := ahead.instantOf? e .ended
  have same (u : Simulator) : u.instantOf? e .ended = u.ended? e := by
    rw [Simulator.instantOf?, ended?]
    cases u.events.get? e <;> rfl
  rwa [same, same] at instants

/-- What a command waits for has ended no later. -/
theorem readyAt_le (ahead : Ahead s t) {start start' : Nat} (earlier : start ≤ start')
    (wait : List EventHandle) :
    Option.Rel (· ≤ ·) (s.readyAt start wait) (t.readyAt start' wait) := by
  induction wait generalizing start start' with
  | nil => exact .some earlier
  | cons e rest ih =>
    have first := ended?_le ahead e
    rw [readyAt, readyAt, List.foldlM_cons, List.foldlM_cons]
    generalize s.ended? e = one at first
    generalize t.ended? e = other at first
    cases first with
    | none => exact .none
    | some ended => exact ih (max_le_max earlier ended)

theorem leads_runEvent (ahead : Ahead s t) {submitted submitted' earliest earliest' : Nat}
    (started : submitted ≤ submitted') (free : earliest ≤ earliest') (event : EventHandle) :
    Leads (· ≤ ·) (runEvent submitted earliest event s) (runEvent submitted' earliest' event t) := by
  have records := ahead.events event
  rw [runEvent_eq, runEvent_eq]
  cases one : s.events.get? event <;> cases other : t.events.get? event <;>
    rw [one, other] at records
  · exact .error _ ahead
  · contradiction
  · contradiction
  next a b =>
    have alike := ahead.record one other
    have command : a.command = b.command := (congrArg EventRecord.command alike :)
    have wait : a.wait = b.wait := (congrArg EventRecord.wait alike :)
    have ready := readyAt_le ahead started b.wait
    have executed := leads_execute ahead b.command
    simp only [command, wait]
    generalize s.readyAt submitted b.wait = instant at ready
    generalize t.readyAt submitted' b.wait = instant' at ready
    cases ready with
    | none => exact .error _ ahead
    | some ready =>
      dsimp only
      generalize execute b.command s = outcome at executed
      generalize execute b.command t = outcome' at executed
      cases executed with
      | error status states => exact .error status states
      | ok cost states =>
        have began := max_le_max ready free
        have ended := Nat.add_le_add began cost
        exact .ok ended (states.noted event ⟨started, began, ended⟩)

/-- Commands of a queue that waits no longer are carried out no later. -/
theorem leads_runEvents (ahead : Ahead s t) {submitted submitted' last last' : Nat}
    {inOrder inOrder' : Bool} (started : submitted ≤ submitted') (free : last ≤ last')
    (order : inOrder = true → inOrder' = true) (events : List EventHandle) :
    Leads (· ≤ ·) (runEvents submitted inOrder last events s)
      (runEvents submitted' inOrder' last' events t) := by
  induction events generalizing last last' s t with
  | nil => exact .ok free ahead
  | cons event rest ih =>
    have earliest : (if inOrder then last else 0) ≤ if inOrder' then last' else 0 := by
      cases inOrder with
      | false => exact Nat.zero_le _
      | true => rwa [if_pos rfl, if_pos (order rfl)]
    have first := leads_runEvent ahead started earliest event
    rw [runEvents_cons, runEvents_cons]
    generalize runEvent submitted _ event s = outcome at first
    generalize runEvent submitted' _ event t = outcome' at first
    cases first with
    | error status states => exact .error status states
    | ok ended states => exact ih states (max_le_max free ended)

/-! ### Requests -/

theorem leads_runPending (ahead : Ahead s t) (queue : QueueHandle) :
    Leads (fun _ _ => True) (runPending queue s) (runPending queue t) := by
  have queues := ahead.queues queue
  rw [runPending_eq, runPending_eq]
  cases one : s.queues.get? queue <;> cases other : t.queues.get? queue <;>
    rw [one, other] at queues
  · exact .error _ ahead
  · contradiction
  · contradiction
  next p q =>
    have pending : p.pending = q.pending := (congrArg Queue.pending (ahead.queue one other) :)
    obtain ⟨⟨order, free⟩⟩ := queues
    have inOrder : (!p.properties.outOfOrder) = true → (!q.properties.outOfOrder) = true := by
      simp only [Bool.not_eq_true', ← Bool.not_eq_true]
      exact mt order
    have ran := leads_runEvents (ahead.taken queue) ahead.clock free inOrder q.pending
    dsimp only
    rw [pending]
    generalize runEvents _ _ p.lastEnd q.pending _ = outcome at ran
    generalize runEvents _ _ q.lastEnd q.pending _ = outcome' at ran
    cases ran with
    | error status states => exact .error status states
    | ok ended states => exact .ok trivial (states.settled queue ended)

/-- Waiting for a queue takes the clock no further. -/
theorem leads_finish (ahead : Ahead s t) (queue : QueueHandle) :
    Leads (fun _ _ => True) (finish queue s) (finish queue t) := by
  have ran := leads_runPending ahead queue
  rw [finish_eq, finish_eq]
  generalize runPending queue s = outcome at ran
  generalize runPending queue t = outcome' at ran
  cases ran with
  | error status states => exact .error status states
  | @ok _ _ u v _ states =>
    have free : ((u.queues.get? queue).map (·.lastEnd)).getD 0 ≤
        ((v.queues.get? queue).map (·.lastEnd)).getD 0 := by
      have queues := states.queues queue
      generalize u.queues.get? queue = p at queues
      generalize v.queues.get? queue = q at queues
      cases queues with
      | none => exact Nat.le_refl _
      | some queues => exact queues.lastEnd
    exact .ok trivial { states with clock := max_le_max states.clock free }

theorem leads_submit (ahead : Ahead s t) (queue : QueueHandle) (command : Command)
    (wait : List EventHandle) :
    Leads (fun _ _ => True) (submit queue command wait s) (submit queue command wait t) := by
  have live (e : EventHandle) : (s.liveEvent? e).isNone = (t.liveEvent? e).isNone := by
    have same := congrArg (fun u : Simulator => (u.liveEvent? e).isNone) ahead.alike
    simpa using same
  have queues := ahead.queues queue
  simp only [submit_eq, live]
  split
  · exact .error _ ahead
  · generalize s.queues.get? queue = p at queues
    generalize t.queues.get? queue = q at queues
    cases queues with
    | none => exact .error _ ahead
    | some _ => exact .ok trivial (ahead.submitted queue _ _ command wait)

theorem leads_enqueueMigrate (ahead : Ahead s t) (queue : QueueHandle)
    (buffers : List BufferHandle) (direction : Direction) (wait : List EventHandle) :
    Leads (fun _ _ => True) (enqueueMigrate queue buffers direction wait s)
      (enqueueMigrate queue buffers direction wait t) := by
  rw [enqueueMigrate_eq, enqueueMigrate_eq, ahead.buffers_eq]
  split
  · exact .error _ ahead
  · split
    · exact .error _ ahead
    · exact leads_submit ahead queue (.migrate buffers direction) wait

theorem leads_enqueueTask (ahead : Ahead s t) (queue : QueueHandle) (kernel : KernelHandle)
    (wait : List EventHandle) :
    Leads (fun _ _ => True) (enqueueTask queue kernel wait s) (enqueueTask queue kernel wait t) := by
  rw [enqueueTask_eq, enqueueTask_eq, ahead.kernels_eq]
  split
  · exact .error _ ahead
  · exact leads_submit ahead queue (.task kernel) wait

theorem leads_releaseEvent (ahead : Ahead s t) (event : EventHandle) :
    Leads (fun _ _ => True) (releaseEvent event s) (releaseEvent event t) := by
  have live : (s.liveEvent? event).isSome = (t.liveEvent? event).isSome := by
    have same := congrArg (fun u : Simulator => (u.liveEvent? event).isSome) ahead.alike
    simpa using same
  rw [releaseEvent_eq, releaseEvent_eq]
  cases one : s.liveEvent? event <;> cases other : t.liveEvent? event <;> rw [one, other] at live
  · exact .error _ ahead
  · contradiction
  · contradiction
  · exact .ok trivial (ahead.eventReleased event)

/-- A queue is made, which may run in order only if the other one does. -/
theorem leads_createQueue (ahead : Ahead s t) (context : ContextHandle) (device : DeviceId)
    {properties properties' : QueueProperties}
    (order : properties'.outOfOrder = true → properties.outOfOrder = true) :
    Leads (fun _ _ => True) (createQueue context device properties s)
      (createQueue context device properties' t) := by
  have contexts : s.contexts.get? context = t.contexts.get? context := by rw [ahead.contexts_eq]
  have alike := (alike_next (.createQueue context device properties properties') ahead.alike).2
  simp only [next, ComputeApi.call] at alike
  rw [createQueue_eq, createQueue_eq, contexts] at alike ⊢
  split
  · exact .error _ ahead
  next here =>
    rw [if_neg here, if_neg here] at alike
    have new := ahead.queues.insert ⟨s.nextId⟩ (v := { properties }) (w := { properties := properties' })
      ⟨order, Nat.le_refl _⟩
    refine .ok trivial { ahead with alike := alike, queues := ?_ }
    rw [← ahead.nextId_eq]
    exact new

/-- Nothing that has to do with time is reached. -/
structure Unmoved (s u : Simulator) : Prop where
  /-- The time is the same. -/
  clock : u.clock = s.clock
  /-- Kernels run as long. -/
  kernelTime : u.kernelTime = s.kernelTime
  /-- Bytes move as fast. -/
  bandwidth : u.bandwidth = s.bandwidth
  /-- The queues are the same. -/
  queues : u.queues = s.queues
  /-- The records are the same. -/
  events : u.events = s.events

theorem unmoved_next (s : Simulator) {r : Request} (quiet : r.isQuiet)
    (keeps : ∀ e, r ≠ .releaseEvent e) : Unmoved s (s.next r) := by
  have does := does_next s r
  generalize s.next r = u at does
  cases does with
  | releaseEvent event => exact absurd rfl (keeps event)
  | createQueue context device properties => contradiction
  | submit loud queue profiling command wait => simp [quiet] at loud
  | stop loud queue advanced => simp [quiet] at loud
  | start loud queue advanced lastEnd clock => simp [quiet] at loud
  | _ => exact ⟨rfl, rfl, rfl, rfl, rfl⟩

theorem Ahead.unmoved (ahead : Ahead s t) {u v : Simulator} (first : Unmoved s u)
    (second : Unmoved t v) (alike : u.untimed = v.untimed) : Ahead u v where
  alike := alike
  clock := by rw [first.clock, second.clock]; exact ahead.clock
  kernelTime := by rw [first.kernelTime, second.kernelTime]; exact ahead.kernelTime
  bandwidth := by rw [first.bandwidth, second.bandwidth]; exact ahead.bandwidth
  moves := by rw [second.bandwidth]; exact ahead.moves
  queues := by rw [first.queues, second.queues]; exact ahead.queues
  events := by rw [first.events, second.events]; exact ahead.events

/-- Every request keeps a simulator ahead. -/
theorem Ahead.next (ahead : Ahead s t) (alike : r.AlikeButOrder r') :
    Ahead (s.next r) (t.next r') := by
  cases alike with
  | createQueue context device order => exact (leads_createQueue ahead context device order).stateOf
  | same =>
    cases quiet : r.isQuiet with
    | true =>
      by_cases keeps : ∃ e, r = .releaseEvent e
      · obtain ⟨e, rfl⟩ := keeps
        exact (leads_releaseEvent ahead e).stateOf
      · have keeps : ∀ e, r ≠ .releaseEvent e := fun e is => keeps ⟨e, is⟩
        exact ahead.unmoved (unmoved_next s quiet keeps) (unmoved_next t quiet keeps)
          (alike_next (.same r) ahead.alike).2
    | false =>
      cases r with
      | createQueue context device properties =>
        exact (leads_createQueue ahead context device id).stateOf
      | enqueueMigrate queue buffers direction wait =>
        exact (leads_enqueueMigrate ahead queue buffers direction wait).stateOf
      | enqueueTask queue kernel wait => exact (leads_enqueueTask ahead queue kernel wait).stateOf
      | flush queue => exact (leads_runPending ahead queue).stateOf
      | finish queue => exact (leads_finish ahead queue).stateOf
      | _ => contradiction

/-- So does every history. -/
theorem Ahead.nexts {requests requests' : List Request} (ahead : Ahead s t)
    (alike : List.Forall₂ Request.AlikeButOrder requests requests') :
    Ahead (s.nexts requests) (t.nexts requests') := by
  induction alike generalizing s t with
  | nil => exact ahead
  | cons head tail ih => exact ih (ahead.next head)

/-- A simulator that is ahead has times that are words if the other has. -/
theorem Ahead.inWords (ahead : Ahead s t) (words : t.InWords) : s.InWords where
  clock := words.clock.of_le ahead.clock
  queues := ahead.queues.forall_values (P := fun q => IsWord q.lastEnd)
    (fun _ _ ahead word => word.of_le ahead.lastEnd) words.queues
  events := ahead.events.forall_values (fun _ _ ahead words => ahead.inWords words) words.events

/-- A simulator is ahead of itself if it is made slower. -/
theorem ahead_of_slower (s : Simulator) {kernelTime kernelTime' bandwidth bandwidth' : Nat}
    (longer : kernelTime ≤ kernelTime') (narrower : bandwidth' ≤ bandwidth) :
    Ahead ((s.withKernelTime kernelTime).withBandwidth bandwidth)
      ((s.withKernelTime kernelTime').withBandwidth bandwidth') where
  alike := rfl
  clock := Nat.le_refl _
  kernelTime := max_le_max longer (Nat.le_refl 1)
  bandwidth := max_le_max narrower (Nat.le_refl 1)
  moves := Nat.lt_of_lt_of_le Nat.one_pos (Nat.le_max_right _ _)
  queues := Table.related_refl (fun _ => ⟨id, Nat.le_refl _⟩) s.queues
  events := Table.related_refl EventRecord.ahead_refl s.events

/-- Slower is never earlier. The same requests are made of a simulator, and of one on which kernels
run as long at least, no more bytes move in a unit of time, and some queues may run in order that do
not on the first. After each request, as long as the times of the second are words, so are those of
the first, the time is not earlier on the second, the same instants of the same commands are known
on both, and none of them is earlier on the second. -/
theorem later_of_slower (s : Simulator) {kernelTime kernelTime' bandwidth bandwidth' : Nat}
    (longer : kernelTime ≤ kernelTime') (narrower : bandwidth' ≤ bandwidth)
    {requests requests' : List Request}
    (alike : List.Forall₂ Request.AlikeButOrder requests requests') (n : Nat) :
    let fast := ((s.withKernelTime kernelTime).withBandwidth bandwidth).nexts (requests.take n)
    let slow := ((s.withKernelTime kernelTime').withBandwidth bandwidth').nexts (requests'.take n)
    slow.InWords → fast.InWords ∧ fast.clock ≤ slow.clock ∧
      ∀ e instant, Option.Rel (· ≤ ·) (fast.instantOf? e instant) (slow.instantOf? e instant) := by
  intro fast slow words
  have ahead : Ahead fast slow :=
    (ahead_of_slower s longer narrower).nexts (List.forall₂_take n alike)
  exact ⟨ahead.inWords words, ahead.clock, ahead.instantOf?⟩

/-- A kernel run and a copy beside it, on a queue of the given properties. -/
def fillBesideRead (properties : QueueProperties) : List Request :=
  [.createQueue ⟨1⟩ ⟨0⟩ properties, .enqueueTask ⟨5⟩ ⟨4⟩ [],
    .enqueueMigrate ⟨5⟩ [⟨3⟩] .toHost [], .finish ⟨5⟩]

/-- On the slow simulator the copy waits for the kernel, which runs longer, and the bytes move
slower. -/
theorem later_of_slower_staffed :
    let fast := ((staffed.withKernelTime 5).withBandwidth 8).nexts (fillBesideRead {})
    let slow := ((staffed.withKernelTime 7).withBandwidth 1).nexts
      (fillBesideRead { outOfOrder := false })
    slow.InWords ∧ fast.InWords ∧ fast.clock ≤ slow.clock ∧
      Option.Rel (· ≤ ·) (fast.instantOf? ⟨7⟩ .started) (slow.instantOf? ⟨7⟩ .started) ∧
      fast.instantOf? ⟨7⟩ .started = some 200 ∧ slow.instantOf? ⟨7⟩ .started = some 207 ∧
      fast.clock = 1201 ∧ slow.clock = 1211 := by
  intro fast slow
  have alike : List.Forall₂ Request.AlikeButOrder (fillBesideRead {})
      (fillBesideRead { outOfOrder := false }) :=
    .cons (.createQueue _ _ nofun) (.cons (.same _) (.cons (.same _) (.cons (.same _) .nil)))
  have words : slow.InWords := by decide
  obtain ⟨ahead, clock, instants⟩ :=
    later_of_slower staffed (by decide : 5 ≤ 7) (by decide : 1 ≤ 8) alike 4 words
  exact ⟨words, ahead, clock, instants ⟨7⟩ .started, by decide, by decide, by decide, by decide⟩

end Simulator

end FpgaHost
