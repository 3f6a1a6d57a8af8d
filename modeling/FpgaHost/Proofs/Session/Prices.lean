import FpgaHost.Proofs.Session.Custody
import FpgaHost.Proofs.Simulator.Chronicle
import FpgaHost.Proofs.Simulator.Starts

/-!
# What a command costs in the end

A command is put into its queue at one time and carried out at another. Its price is what it costs
in the state in which it was put into the queue (`costOf`); by the time it is carried out buffers
may have come and gone. It costs its price all the same: a migration is carried out only if all of
its buffers are still there, buffers keep the size they were allocated with, and no handle is used
again (`Priced`).

Main statement: `Priced.next`.
-/

namespace FpgaHost.Simulator

open Steps

variable {s t u : Simulator} {event : EventHandle} {command : Command}

/-! ### Commands that are carried out -/

/-- The size of a buffer, if it is there. -/
def sizeOf (s : Simulator) (b : BufferHandle) : Nat := ((s.allocation? b).map (·.size)).getD 0

theorem bytesOf_eq (s : Simulator) (buffers : List BufferHandle) :
    s.bytesOf buffers = sumWords (buffers.map s.sizeOf) := rfl

theorem Fits.congr {b : BufferHandle} {size : Nat} (fits : s.Fits b size) (nextId : t.nextId = s.nextId)
    (buffers : t.buffers = s.buffers) : t.Fits b size where
  issued := nextId.symm ▸ fits.issued
  size a known := by
    rw [allocation?, buffers] at known
    exact fits.size a known

theorem Fits.sizeOf_eq {b : BufferHandle} {size : Nat} (fits : s.Fits b size)
    (there : s.buffers.contains b = true) : s.sizeOf b = size := by
  obtain ⟨buffer, found⟩ := Table.contains_iff.1 there
  have known : s.allocation? b = some buffer.allocation := by
    rw [allocation?, found, Option.map_some]
  rw [sizeOf, known]
  exact fits.size _ known

theorem fits_of_contains (numbered : s.Numbered) {b : BufferHandle}
    (there : s.buffers.contains b = true) : s.Fits b (s.sizeOf b) where
  issued := numbered.buffers b there
  size a known := by
    rw [sizeOf, known]
    rfl

theorem contains_of_migrate {direction : Direction} {buffers : List BufferHandle} {moved cost : Nat}
    (ran : migrate direction moved buffers s = .ok cost t) :
    ∀ b ∈ buffers, s.buffers.contains b = true := by
  induction buffers generalizing moved s with
  | nil => exact fun b mem => absurd mem List.not_mem_nil
  | cons first rest ih =>
    rw [migrate_cons] at ran
    cases found : s.buffers.get? first with
    | none => simp [found] at ran
    | some buffer =>
      rw [found] at ran
      intro b mem
      rcases List.mem_cons.1 mem with rfl | mem
      · exact Table.contains_iff.2 ⟨buffer, found⟩
      · have there := ih ran b mem
        rwa [Table.contains_modify] at there

/-- What a command copies was there when it was carried out. -/
theorem contains_of_execute {cost : Nat} (ran : execute command s = .ok cost t) :
    ∀ b ∈ command.buffers, s.buffers.contains b = true := by
  cases command with
  | migrate buffers direction => exact contains_of_migrate ran
  | task kernel => exact fun b mem => absurd mem List.not_mem_nil

/-! ### Prices -/

/-- What a command costs depends on the sizes of the buffers that it copies. -/
theorem costOf_of_sizes (sizes : ∀ b ∈ command.buffers, s.sizeOf b = u.sizeOf b)
    (kernelTime : s.kernelTime = u.kernelTime) (bandwidth : s.bandwidth = u.bandwidth) :
    s.costOf command = u.costOf command := by
  cases command with
  | task kernel => exact kernelTime
  | migrate buffers direction =>
    have same : buffers.map s.sizeOf = buffers.map u.sizeOf := List.map_congr_left sizes
    rw [costOf, costOf, bytesOf_eq, bytesOf_eq, same, bandwidth]

/-- The command of an event, which was put into a queue in an earlier state, costs what it would
have cost then, whenever it is carried out. -/
structure Priced (u s : Simulator) (event : EventHandle) (command : Command) : Prop where
  /-- The number of the event was given out. -/
  issued : event.id < s.nextId
  /-- The buffers that the command copies have the sizes that they had, for as long as they are
  there. -/
  fits : ∀ b ∈ command.buffers, s.Fits b (u.sizeOf b)
  /-- Kernels run as long as they did. -/
  kernelTime : s.kernelTime = u.kernelTime
  /-- Bytes move as fast as they did. -/
  bandwidth : s.bandwidth = u.bandwidth
  /-- The record of the event names the command. -/
  named : ∀ r, s.events.get? event = some r → r.command = command
  /-- If the command has run it has taken its price. -/
  took : ∀ x, s.execution? event = some x → x.ended = x.started + u.costOf command

namespace Priced

/-- A command that is carried out costs its price. -/
theorem cost (priced : Priced u s event command) (sized : BufferTable.Sized s.buffers) {cost : Nat}
    (ran : execute command s = .ok cost t) : cost = u.costOf command := by
  rw [cost_of_execute sized ran]
  refine costOf_of_sizes (fun b mem => ?_) priced.kernelTime priced.bandwidth
  exact (priced.fits b mem).sizeOf_eq (contains_of_execute ran b mem)

/-! ### Starts -/

/-- What is true of a command stays true while other things are carried out. -/
theorem advanced (priced : Priced u s event command) (advanced : Advanced s t)
    (allocation : ∀ b, t.allocation? b = s.allocation? b)
    (took : ∀ x, t.execution? event = some x → x.ended = x.started + u.costOf command) :
    Priced u t event command where
  issued := advanced.nextId.symm ▸ priced.issued
  fits b mem := by
    obtain ⟨issued, size⟩ := priced.fits b mem
    exact ⟨advanced.nextId.symm ▸ issued, fun a known => size a (allocation b ▸ known)⟩
  kernelTime := by
    rw [advanced.rest]
    exact priced.kernelTime
  bandwidth := by
    rw [advanced.rest]
    exact priced.bandwidth
  named r found := by
    have same := advanced.events event
    rw [found, Option.map_some] at same
    obtain ⟨q, there, bared⟩ := Option.map_eq_some_iff.1 same.symm
    have command : (bare q).command = (bare r).command := congrArg EventRecord.command bared
    exact command.symm.trans (priced.named q there)
  took := took

theorem runEvent (priced : Priced u s event command) (sized : BufferTable.Sized s.buffers)
    (submitted earliest : Nat) (other : EventHandle) :
    Priced u (stateOf (runEvent submitted earliest other s)) event command := by
  refine priced.advanced (advanced_runEvent submitted earliest other s)
    (allocation?_runEvent submitted earliest other s) fun x known => ?_
  cases outcome : Simulator.runEvent submitted earliest other s with
  | error status t =>
    rw [outcome, stateOf_error, execution?, events_of_runEvent_error outcome] at known
    exact priced.took x known
  | ok ended t =>
    rw [outcome, stateOf_ok] at known
    rw [runEvent_eq] at outcome
    cases found : s.events.get? other with
    | none => simp [found] at outcome
    | some record =>
      cases ready : s.readyAt submitted record.wait with
      | none => simp [found, ready] at outcome
      | some time =>
        have steady := steady_execute record.command s
        cases executed : execute record.command s with
        | error status v => simp [found, ready, executed] at outcome
        | ok cost v =>
          simp only [found, ready, executed, EStateM.Result.ok.injEq, stateOf_ok] at outcome steady
          obtain ⟨-, rfl⟩ := outcome
          have found' : v.events.get? other = some record := by rw [steady.events, found]
          by_cases same : other = event
          · subst same
            rw [priced.named record found] at executed
            rw [execution?_noted found' rfl] at known
            rw [← Option.some.inj known, priced.cost sized executed]
          · rw [execution?, noted, Table.get?_modify_of_ne _ same, steady.events] at known
            exact priced.took x known

theorem runEvents (priced : Priced u s event command) (sized : BufferTable.Sized s.buffers)
    (submitted : Nat) (inOrder : Bool) (lastEnd : Nat) (events : List EventHandle) :
    Priced u (stateOf (runEvents submitted inOrder lastEnd events s)) event command := by
  induction events generalizing lastEnd s with
  | nil => exact priced
  | cons first rest ih =>
    have earliest := priced.runEvent sized submitted (if inOrder then lastEnd else 0) first
    have advanced := advanced_runEvent submitted (if inOrder then lastEnd else 0) first s
    rw [runEvents_cons]
    cases ran : Simulator.runEvent submitted (if inOrder then lastEnd else 0) first s with
    | error status t =>
      rw [ran] at earliest
      exact earliest
    | ok ended t =>
      rw [ran] at earliest advanced
      exact ih earliest (advanced.sized sized) (max lastEnd ended)

/-! ### Records that are kept -/

/-- What is true of a command stays true while its record says the same or is dropped. -/
theorem recalled (priced : Priced u s event command) (nextId : s.nextId ≤ t.nextId)
    (fits : ∀ b ∈ command.buffers, t.Fits b (u.sizeOf b)) (kernelTime : t.kernelTime = s.kernelTime)
    (bandwidth : t.bandwidth = s.bandwidth)
    (recalls : ∀ r, t.events.get? event = some r →
      ∃ q, s.events.get? event = some q ∧ q.command = r.command ∧ q.execution = r.execution) :
    Priced u t event command where
  issued := Nat.lt_of_lt_of_le priced.issued nextId
  fits := fits
  kernelTime := kernelTime.trans priced.kernelTime
  bandwidth := bandwidth.trans priced.bandwidth
  named r found := by
    obtain ⟨q, there, command, -⟩ := recalls r found
    exact command.symm.trans (priced.named q there)
  took x ran := by
    obtain ⟨r, found, executed⟩ := Option.bind_eq_some_iff.1 ran
    obtain ⟨q, there, -, same⟩ := recalls r found
    refine priced.took x ?_
    rw [execution?, there, Option.bind_some, same, executed]

theorem collectReleased (priced : Priced u s event command) :
    Priced u s.collectReleased event command := by
  refine priced.recalled (Nat.le_refl _) (fun b mem => (priced.fits b mem).congr rfl rfl) rfl rfl
    fun r found => ?_
  rw [get?_collectReleased] at found
  exact ⟨r, (Option.filter_eq_some_iff.1 found).1, rfl, rfl⟩

theorem eventReleased (priced : Priced u s event command) (other : EventHandle) :
    Priced u (s.eventReleased other) event command := by
  refine collectReleased (priced.recalled (Nat.le_refl _)
    (fun b mem => (priced.fits b mem).congr rfl rfl) rfl rfl fun r found => ?_)
  rw [Table.get?_modify] at found
  split at found
  · obtain ⟨q, there, rfl⟩ := Option.map_eq_some_iff.1 found
    exact ⟨q, there, rfl, rfl⟩
  · exact ⟨r, found, rfl, rfl⟩

theorem submitted (priced : Priced u s event command) (queue : QueueHandle) (profiling : Bool)
    (other : Command) (wait : List EventHandle) :
    Priced u (s.submitted queue profiling other wait) event command := by
  refine priced.recalled (Nat.le_succ _) (fun b mem => ?_) rfl rfl fun r found => ⟨r, ?_, rfl, rfl⟩
  · exact ⟨Nat.lt_succ_of_lt (priced.fits b mem).issued, (priced.fits b mem).size⟩
  · have ne : (⟨s.nextId⟩ : EventHandle) ≠ event := by
      rintro rfl
      exact Nat.lt_irrefl _ priced.issued
    rwa [Simulator.submitted, Table.get?_insert_of_ne _ ne] at found

theorem submission (priced : Priced u s event command) {queue : QueueHandle}
    {wait : List EventHandle} {outcome : EStateM.Result Status Simulator EventHandle}
    (submission : Submission s queue wait outcome) : Priced u (stateOf outcome) event command := by
  cases submission with
  | refused status => exact priced
  | accepted other found => exact priced.submitted queue _ other wait

theorem runPending (priced : Priced u s event command) (sized : BufferTable.Sized s.buffers)
    (queue : QueueHandle) : Priced u (stateOf (runPending queue s)) event command := by
  rw [runPending_eq]
  cases s.queues.get? queue with
  | none => exact priced
  | some q =>
    have taken : Priced u (s.taken queue) event command :=
      { priced with fits := fun b mem => (priced.fits b mem).congr rfl rfl }
    have ran := taken.runEvents sized s.clock (!q.properties.outOfOrder) q.lastEnd q.pending
    dsimp only
    cases outcome : Simulator.runEvents s.clock (!q.properties.outOfOrder) q.lastEnd q.pending
        (s.taken queue) with
    | error status t =>
      rw [outcome] at ran
      exact ran
    | ok lastEnd t =>
      rw [outcome] at ran
      refine collectReleased (s := { t with
        queues := t.queues.modify queue fun q => { q with lastEnd } }) ?_
      exact { ran with fits := fun b mem => (ran.fits b mem).congr rfl rfl }

theorem finish (priced : Priced u s event command) (sized : BufferTable.Sized s.buffers)
    (queue : QueueHandle) : Priced u (stateOf (finish queue s)) event command := by
  have ran := priced.runPending sized queue
  rw [finish_eq]
  cases outcome : Simulator.runPending queue s with
  | error status t =>
    rw [outcome] at ran
    exact ran
  | ok _ t =>
    rw [outcome] at ran
    exact { ran with fits := fun b mem => (ran.fits b mem).congr rfl rfl }

end Priced

/-! ### Requests -/

/-- No request changes how fast bytes move. -/
theorem bandwidth_next (s : Simulator) (r : Request) : (s.next r).bandwidth = s.bandwidth := by
  have does := does_next s r
  generalize s.next r = t at does
  cases does with
  | stop loud queue advanced =>
    rw [advanced.rest]
    rfl
  | @start r u loud queue advanced lastEnd clock =>
    have same : u.bandwidth = s.bandwidth := by
      rw [advanced.rest]
      rfl
    exact same
  | _ => rfl

/-- Whatever is requested meanwhile, a command costs its price. -/
theorem Priced.next (priced : Priced u s event command) (sized : BufferTable.Sized s.buffers)
    (r : Request) : Priced u (s.next r) event command := by
  have nextId := (does_next s r).nextId_le
  have fits : ∀ b ∈ command.buffers, (s.next r).Fits b (u.sizeOf b) := fun b mem =>
    (priced.fits b mem).next r
  have kernelTime := Chronicle.kernelTime_next s r
  have bandwidth := bandwidth_next s r
  have unrecorded (same : (s.next r).events = s.events) : Priced u (s.next r) event command :=
    priced.recalled nextId fits kernelTime bandwidth fun record found =>
      ⟨record, same ▸ found, rfl, rfl⟩
  by_cases quiet : r.isQuiet
  · have does := does_next s r
    generalize s.next r = t at does unrecorded
    cases does with
    | releaseEvent other => exact priced.eventReleased other
    | submit loud queue profiling command wait => simp [quiet] at loud
    | stop loud queue advanced => simp [quiet] at loud
    | start loud queue advanced lastEnd clock => simp [quiet] at loud
    | _ => exact unrecorded rfl
  · cases r with
    | createQueue context device properties =>
      refine unrecorded ?_
      simp only [Simulator.next, ComputeApi.call, createQueue_eq]
      split <;> rfl
    | enqueueMigrate queue buffers direction wait =>
      exact priced.submission (submission_enqueueMigrate s queue buffers direction wait)
    | enqueueTask queue kernel wait =>
      exact priced.submission (submission_enqueueTask s queue kernel wait)
    | flush queue => exact priced.runPending sized queue
    | finish queue => exact priced.finish sized queue
    | _ => exact absurd rfl quiet

/-- A command has the same price in two states if its buffers have the same sizes. -/
theorem Priced.congr (priced : Priced u s event command)
    (sizes : ∀ b ∈ command.buffers, u.sizeOf b = t.sizeOf b) (kernelTime : u.kernelTime = t.kernelTime)
    (bandwidth : u.bandwidth = t.bandwidth) : Priced t s event command := by
  have costs := costOf_of_sizes sizes kernelTime bandwidth
  exact { priced with
    fits := fun b mem => sizes b mem ▸ priced.fits b mem
    kernelTime := priced.kernelTime.trans kernelTime
    bandwidth := priced.bandwidth.trans bandwidth
    took := fun x ran => costs ▸ priced.took x ran }

/-- A command that is put into a queue has its price from then on. -/
theorem priced_submitted (numbered : s.Numbered)
    (there : ∀ b ∈ command.buffers, s.buffers.contains b = true) (queue : QueueHandle)
    (profiling : Bool) (wait : List EventHandle) :
    Priced s (s.submitted queue profiling command wait) ⟨s.nextId⟩ command where
  issued := Nat.lt_succ_self _
  fits b mem := by
    obtain ⟨issued, size⟩ := fits_of_contains numbered (there b mem)
    exact ⟨Nat.lt_succ_of_lt issued, size⟩
  kernelTime := rfl
  bandwidth := rfl
  named r found := by
    rw [submitted, Table.get?_insert_self] at found
    rw [← Option.some.inj found]
  took x ran := by
    rw [execution?, submitted, Table.get?_insert_self] at ran
    contradiction

end FpgaHost.Simulator
