import FpgaHost.Proofs.Device.Commands
import FpgaHost.Proofs.Simulator.Completion
import FpgaHost.Proofs.Simulator.Reachable

/-!
# When commands begin

A command begins when all that it waits for has ended, whichever queues are started and in whatever
order, and whatever becomes of its event. Records of events do not tell: they are dropped when
events are given back. So this is said of traces (`Timely`): the executions that records tell of are
in the log of the trace, and every command in the log that was accepted began after all that it was
accepted to wait for.

Main statements: `Timely.next` (every request keeps that) and `exists_timely` (every reachable
simulator has a trace that is timely).
-/

namespace FpgaHost

open Steps

namespace Simulator

variable {s t u : Simulator} {r : Request}

/-! ### Records -/

/-- What the records of another state tell of waiting and running, the records here tell too. -/
def Recalls (s t : Simulator) : Prop :=
  ∀ e r, t.events.get? e = some r →
    ∃ q, s.events.get? e = some q ∧ q.wait = r.wait ∧ q.execution = r.execution

theorem recalls_of_events (same : t.events = s.events) : s.Recalls t := fun _ r found =>
  ⟨r, same ▸ found, rfl, rfl⟩

theorem Recalls.trans (first : s.Recalls t) (rest : t.Recalls u) : s.Recalls u := by
  intro e r found
  obtain ⟨q, there, wait, execution⟩ := rest e r found
  obtain ⟨p, before, wait', execution'⟩ := first e q there
  exact ⟨p, before, wait'.trans wait, execution'.trans execution⟩

theorem Recalls.execution? (recalls : s.Recalls t) {e : EventHandle} {x : Execution}
    (ran : t.execution? e = some x) : s.execution? e = some x := by
  obtain ⟨r, found, executed⟩ := Option.bind_eq_some_iff.1 ran
  obtain ⟨q, there, -, same⟩ := recalls e r found
  rw [Simulator.execution?, there, Option.bind_some, same, executed]

theorem recalls_collectReleased (s : Simulator) : s.Recalls s.collectReleased := by
  intro e r found
  rw [get?_collectReleased] at found
  exact ⟨r, (Option.filter_eq_some_iff.1 found).1, rfl, rfl⟩

theorem recalls_eventReleased (s : Simulator) (event : EventHandle) :
    s.Recalls (s.eventReleased event) := by
  refine Recalls.trans (fun e r found => ?_) (recalls_collectReleased _)
  rw [Table.get?_modify] at found
  split at found
  · obtain ⟨q, there, rfl⟩ := Option.map_eq_some_iff.1 found
    exact ⟨q, there, rfl, rfl⟩
  · exact ⟨r, found, rfl, rfl⟩

/-- Carrying out commands brings no record, and those that are there name what they have named. -/
theorem wait_of_advanced (advanced : Advanced s t) {e : EventHandle} {r : EventRecord}
    (found : t.events.get? e = some r) : ∃ q, s.events.get? e = some q ∧ q.wait = r.wait := by
  have same := advanced.events e
  rw [found, Option.map_some] at same
  obtain ⟨q, there, bared⟩ := Option.map_eq_some_iff.1 same.symm
  have wait : (bare q).wait = (bare r).wait := congrArg EventRecord.wait bared
  exact ⟨q, there, wait⟩

/-! ### Starts -/

/-- The executions that the records of a simulator tell of are in a log. -/
def Logged (s : Simulator) (log : List (EventHandle × Option Execution)) : Prop :=
  ∀ e x, s.execution? e = some x → (e, some x) ∈ log

theorem Logged.recalled {log : List (EventHandle × Option Execution)} (logged : s.Logged log)
    (recalls : s.Recalls t) : t.Logged log := fun e x ran => logged e x (recalls.execution? ran)

/-- A command that was carried out had a record, and began after all that it names: that has ended
by then, as a log tells. -/
structure Began (s : Simulator) (log : List (EventHandle × Option Execution)) (e : EventHandle)
    (x : Execution) : Prop where
  /-- It did not end before it began. -/
  forward : x.started ≤ x.ended
  /-- What it waits for has ended. -/
  awaited : ∃ r, s.events.get? e = some r ∧
    ∀ w ∈ r.wait, ∃ y, (w, some y) ∈ log ∧ y.ended ≤ x.started

section
variable {log : List (EventHandle × Option Execution)}

/-- A command that runs is logged beside all others. -/
theorem Logged.ran (logged : s.Logged log) {event : EventHandle} {x : Execution} {r : EventRecord}
    (found : s.events.get? event = some r)
    (events : t.events = s.events.modify event fun r => { r with execution := some x }) :
    t.Logged (log ++ [(event, some x)]) := by
  intro e y ran
  by_cases same : event = e
  · subst same
    obtain rfl := Option.some.inj ((execution?_noted found events).symm.trans ran)
    exact List.mem_append_right _ List.mem_cons_self
  · rw [execution?, events, Table.get?_modify_of_ne _ same] at ran
    exact List.mem_append_left _ (logged e y ran)

theorem Began.advanced {e : EventHandle} {x : Execution} (began : t.Began log e x)
    (advanced : Advanced s t) : s.Began log e x := by
  obtain ⟨forward, r, found, awaited⟩ := began
  obtain ⟨q, there, wait⟩ := wait_of_advanced advanced found
  exact ⟨forward, q, there, wait ▸ awaited⟩

/-- The commands of a queue are logged as they are carried out, and each began after all that it
waits for. -/
theorem logged_runEvents (logged : s.Logged log) (submitted : Nat) (inOrder : Bool)
    (lastEnd : Nat) (events : List EventHandle) :
    (stateOf (runEvents submitted inOrder lastEnd events s)).Logged
        (log ++ performed submitted inOrder lastEnd events s) ∧
      ∀ e x, (e, some x) ∈ performed submitted inOrder lastEnd events s →
        s.Began (log ++ performed submitted inOrder lastEnd events s) e x := by
  induction events generalizing log lastEnd s with
  | nil =>
    refine ⟨?_, fun e x mem => absurd mem List.not_mem_nil⟩
    rw [performed, List.append_nil]
    exact logged
  | cons event rest ih =>
    have advanced := advanced_runEvent submitted (if inOrder then lastEnd else 0) event s
    rw [runEvents_cons, performed]
    cases first : runEvent submitted (if inOrder then lastEnd else 0) event s with
    | error status u =>
      refine ⟨fun e x ran => ?_, fun e x mem => absurd mem List.not_mem_nil⟩
      rw [stateOf_error, execution?, events_of_runEvent_error first] at ran
      exact List.mem_append_left _ (logged e x ran)
    | ok ended u =>
      rw [first] at advanced
      obtain ⟨r, x, found, noted, -, forward, awaited⟩ := runEvent_ok first
      have others := ih (logged.ran found noted) (max lastEnd ended)
      dsimp only
      rw [execution?_noted found noted, List.append_cons]
      refine ⟨others.1, fun e y mem => ?_⟩
      rcases List.mem_cons.1 mem with this | mem
      · cases this
        refine ⟨forward, r, found, fun w waits => ?_⟩
        obtain ⟨z, ran, by_start⟩ := awaited w waits
        have before := List.mem_append_left [(event, some x)] (logged w z ran)
        exact ⟨z, List.mem_append_left _ before, by_start⟩
      · exact (others.2 e y mem).advanced advanced

/-- So they are by the start of a queue, whether it succeeds or fails half way. -/
theorem logged_runPending (logged : s.Logged log) (queue : QueueHandle) :
    (stateOf (runPending queue s)).Logged (log ++ s.startOf queue) ∧
      ∀ e x, (e, some x) ∈ s.startOf queue → s.Began (log ++ s.startOf queue) e x := by
  rw [runPending_eq, startOf]
  cases found : s.queues.get? queue with
  | none =>
    refine ⟨?_, fun e x mem => absurd mem List.not_mem_nil⟩
    rw [List.append_nil]
    exact logged
  | some q =>
    have taken : (s.taken queue).Logged log := logged
    obtain ⟨told, began⟩ := logged_runEvents taken s.clock (!q.properties.outOfOrder) q.lastEnd q.pending
    refine ⟨?_, fun e x mem => ⟨(began e x mem).forward, (began e x mem).awaited⟩⟩
    dsimp only
    cases ran : runEvents s.clock (!q.properties.outOfOrder) q.lastEnd q.pending (s.taken queue) with
    | error status u => rwa [ran] at told
    | ok lastEnd u =>
      rw [ran] at told
      exact told.recalled (recalls_collectReleased _)

theorem events_finish (queue : QueueHandle) (s : Simulator) :
    (stateOf (finish queue s)).events = (stateOf (runPending queue s)).events := by
  rw [finish_eq]
  cases runPending queue s <;> rfl

end

/-! ### Requests -/

/-- A request that reaches no queue brings no record, and changes none but to mark its event as
given back. -/
theorem recalls_next (s : Simulator) (none : r.queue? = none) : s.Recalls (s.next r) := by
  by_cases quiet : r.isQuiet
  · have does := does_next s r
    generalize s.next r = t at does
    cases does with
    | releaseEvent event => exact recalls_eventReleased s event
    | submit loud queue profiling command wait => simp [quiet] at loud
    | stop loud queue advanced => simp [quiet] at loud
    | start loud queue advanced lastEnd clock => simp [quiet] at loud
    | _ => exact recalls_of_events rfl
  · cases r with
    | createQueue context device properties =>
      rw [next]
      simp only [ComputeApi.call, createQueue_eq]
      split <;> exact recalls_of_events rfl
    | enqueueMigrate queue buffers direction wait => contradiction
    | enqueueTask queue kernel wait => contradiction
    | flush queue => contradiction
    | finish queue => contradiction
    | _ => exact absurd rfl quiet

section
variable {queue : QueueHandle} {outcome : EStateM.Result Status Simulator Unit}
  (start : Start s queue outcome)
include start

theorem Start.nextId_le : s.nextId ≤ (stateOf outcome).nextId := by
  cases start with
  | unknown missing => exact Nat.le_refl _
  | succeeded lastEnd clock found advanced all later ended => exact Nat.le_of_eq advanced.nextId.symm
  | failed status found advanced pending recorded => exact Nat.le_of_eq advanced.nextId.symm

/-- A start brings no record, and the records that stay name what they have named. -/
theorem Start.named {e : EventHandle} {r : EventRecord}
    (found : (stateOf outcome).events.get? e = some r) :
    ∃ q, s.events.get? e = some q ∧ q.wait = r.wait := by
  cases start with
  | unknown missing => exact ⟨r, found, rfl⟩
  | succeeded lastEnd clock there advanced all later ended =>
    obtain ⟨p, kept, wait, -⟩ := recalls_collectReleased _ e r found
    obtain ⟨q, known, same⟩ := wait_of_advanced advanced kept
    exact ⟨q, known, same.trans wait⟩
  | failed status there advanced pending recorded => exact wait_of_advanced advanced found

end

/-- The commands that a simulator accepts with its answer to a request. -/
def commandsBy (s : Simulator) (r : Request) : List StageCommand :=
  match ComputeApi.call r s with
  | .ok answer _ => r.commands (.ok answer)
  | .error _ _ => []

theorem commandsBy_eq_nil (s : Simulator) (submits : ∀ outcome, r.commands outcome = []) :
    s.commandsBy r = [] := by
  rw [commandsBy]
  cases ComputeApi.call r s with
  | ok answer t => exact submits _
  | error status t => rfl

theorem commandsBy_enqueueMigrate (s : Simulator) (queue : QueueHandle) (buffers : List BufferHandle)
    (direction : Direction) (wait : List EventHandle) :
    s.commandsBy (.enqueueMigrate queue buffers direction wait) =
      (acceptedAs queue (enqueueMigrate queue buffers direction wait s)).map
        fun c => ⟨direction.stage, c.2, wait⟩ := by
  have call : ComputeApi.call (.enqueueMigrate queue buffers direction wait) s =
    enqueueMigrate queue buffers direction wait s := rfl
  rw [commandsBy, call]
  cases enqueueMigrate queue buffers direction wait s <;> rfl

theorem commandsBy_enqueueTask (s : Simulator) (queue : QueueHandle) (kernel : KernelHandle)
    (wait : List EventHandle) :
    s.commandsBy (.enqueueTask queue kernel wait) =
      (acceptedAs queue (enqueueTask queue kernel wait s)).map fun c => ⟨.compute, c.2, wait⟩ := by
  have call : ComputeApi.call (.enqueueTask queue kernel wait) s =
    enqueueTask queue kernel wait s := rfl
  rw [commandsBy, call]
  cases enqueueTask queue kernel wait s <;> rfl

end Simulator

/-! ### Traces -/

namespace Trace

open Simulator

variable {t : Trace} {done : List StageCommand}

/-- Of some commands that were accepted, each that was carried out began after all that it was
accepted to wait for. -/
structure Timely (t : Trace) (done : List StageCommand) : Prop where
  /-- The trace is sound. -/
  sound : t.Sound
  /-- The numbers of their events were given out. -/
  issued : ∀ c ∈ done, c.event.id < t.state.nextId
  /-- Their records name what they wait for. -/
  named : ∀ c ∈ done, ∀ r, t.state.events.get? c.event = some r → r.wait = c.wait
  /-- What records tell of executions is in the log. -/
  logged : t.state.Logged t.completed
  /-- No command ended before it began. -/
  forward : ∀ e x, (e, some x) ∈ t.completed → x.started ≤ x.ended
  /-- Those that were carried out began after all that they wait for. -/
  began : ∀ c ∈ done, ∀ x, (c.event, some x) ∈ t.completed →
    ∀ w ∈ c.wait, ∃ y, (w, some y) ∈ t.completed ∧ y.ended ≤ x.started

theorem timely_start {s : Simulator} (unused : s.Unused) : Timely { state := s } [] where
  sound := sound_start unused
  issued c mem := absurd mem List.not_mem_nil
  named c mem := absurd mem List.not_mem_nil
  logged e x ran := by
    rw [execution?, unused.events] at ran
    contradiction
  forward e x mem := absurd mem List.not_mem_nil
  began c mem := absurd mem List.not_mem_nil

namespace Timely

theorem mono (timely : t.Timely done) {fewer : List StageCommand} (sub : fewer ⊆ done) :
    t.Timely fewer :=
  { timely with
    issued := fun c mem => timely.issued c (sub mem)
    named := fun c mem => timely.named c (sub mem)
    began := fun c mem => timely.began c (sub mem) }

/-- An event was carried out once only. -/
theorem once (timely : t.Timely done) {e : EventHandle} {x y : Execution}
    (first : (e, some x) ∈ t.completed) (second : (e, some y) ∈ t.completed) : x = y :=
  Option.some.inj (congrArg Prod.snd (List.inj_on_of_nodup_map timely.sound.once first second rfl))

/-- What brings no record and no execution keeps a trace timely. -/
theorem recalled (timely : t.Timely done) {s : Simulator} (sound : Sound { t with state := s })
    (recalls : t.state.Recalls s) (nextId : t.state.nextId ≤ s.nextId) :
    Timely { t with state := s } done where
  sound := sound
  issued c mem := Nat.lt_of_lt_of_le (timely.issued c mem) nextId
  named c mem r found := by
    obtain ⟨q, there, wait, -⟩ := recalls _ r found
    rw [← wait, timely.named c mem q there]
  logged e x ran := timely.logged e x (recalls.execution? ran)
  forward := timely.forward
  began := timely.began

/-- A command that is accepted has not begun, and its record names what it waits for. -/
theorem submitted (timely : t.Timely done) (stage : Stage) {queue : QueueHandle}
    {profiling : Bool} {command : Command} {wait : List EventHandle}
    {accepted : List (QueueHandle × EventHandle)}
    (sound : Sound { t with
      state := t.state.submitted queue profiling command wait, accepted := accepted }) :
    Timely { t with
      state := t.state.submitted queue profiling command wait, accepted := accepted }
      (⟨stage, ⟨t.state.nextId⟩, wait⟩ :: done) where
  sound := sound
  issued c mem := by
    rcases List.mem_cons.1 mem with rfl | mem
    · exact Nat.lt_succ_self _
    · exact Nat.lt_succ_of_lt (timely.issued c mem)
  named c mem r found := by
    rcases List.mem_cons.1 mem with rfl | mem
    · rw [Simulator.submitted, Table.get?_insert_self] at found
      cases found
      rfl
    · have older : (⟨t.state.nextId⟩ : EventHandle) ≠ c.event := by
        intro same
        exact Nat.lt_irrefl _ (same ▸ timely.issued c mem)
      rw [Simulator.submitted, Table.get?_insert_of_ne _ older] at found
      exact timely.named c mem r found
  logged e x ran := by
    by_cases new : ⟨t.state.nextId⟩ = e
    · rw [execution?, Simulator.submitted, new, Table.get?_insert_self] at ran
      contradiction
    · rw [execution?, Simulator.submitted, Table.get?_insert_of_ne _ new] at ran
      exact timely.logged e x ran
  forward := timely.forward
  began c mem x ran := by
    rcases List.mem_cons.1 mem with rfl | mem
    · exact absurd (List.mem_map_of_mem ran) timely.sound.next_not_completed
    · exact timely.began c mem x ran

/-- A submission keeps a trace timely, whether it is accepted or refused. -/
theorem submission (timely : t.Timely done) (stage : Stage) {queue : QueueHandle}
    {wait : List EventHandle} {outcome : EStateM.Result Status Simulator EventHandle}
    (submission : Submission t.state queue wait outcome) :
    Timely { t with
      state := stateOf outcome, accepted := t.accepted ++ acceptedAs queue outcome }
      ((acceptedAs queue outcome).map (fun c => ⟨stage, c.2, wait⟩) ++ done) := by
  have sound := timely.sound.change (change_of_submission t submission)
  cases submission with
  | refused status =>
    rw [acceptedAs, List.append_nil] at sound ⊢
    exact timely
  | accepted command found => exact timely.submitted stage sound

/-- A start keeps a trace timely, whether it succeeds or fails half way. -/
theorem start (timely : t.Timely done) {queue : QueueHandle}
    {outcome : EStateM.Result Status Simulator Unit} (start : Start t.state queue outcome)
    (logged : (stateOf outcome).Logged (t.completed ++ t.state.startOf queue))
    (began : ∀ e x, (e, some x) ∈ t.state.startOf queue →
      t.state.Began (t.completed ++ t.state.startOf queue) e x) :
    Timely { t with
      state := stateOf outcome
      completed := t.completed ++ t.state.startOf queue
      failed := t.failed ++ t.state.failedAs queue outcome } done where
  sound := timely.sound.change (change_of_start t start)
  issued c mem := Nat.lt_of_lt_of_le (timely.issued c mem) start.nextId_le
  named c mem r found := by
    obtain ⟨q, there, wait⟩ := start.named found
    rw [← wait, timely.named c mem q there]
  logged := logged
  forward e x mem := by
    rcases List.mem_append.1 mem with old | new
    · exact timely.forward e x old
    · exact (began e x new).forward
  began c mem x ran w waits := by
    rcases List.mem_append.1 ran with old | new
    · obtain ⟨y, before, by_start⟩ := timely.began c mem x old w waits
      exact ⟨y, List.mem_append_left _ before, by_start⟩
    · obtain ⟨-, r, found, awaited⟩ := began c.event x new
      rw [timely.named c mem r found] at awaited
      exact awaited w waits

/-- Every request keeps a trace timely, with the commands that it has accepted. -/
theorem next (timely : t.Timely done) (r : Request) :
    (t.next r).Timely (t.state.commandsBy r ++ done) := by
  by_cases none : r.queue? = none
  · have sound := timely.sound.change (change_next t r)
    rw [commandsBy_eq_nil _ (Request.commands_of_queue?_eq_none none)]
    rw [next_of_queue?_eq_none t none] at sound ⊢
    exact timely.recalled sound (recalls_next t.state none) (does_next t.state r).nextId_le
  · cases r with
    | enqueueMigrate queue buffers direction wait =>
      rw [next_of_not_starts t rfl, commandsBy_enqueueMigrate]
      exact timely.submission direction.stage
        (submission_enqueueMigrate t.state queue buffers direction wait)
    | enqueueTask queue kernel wait =>
      rw [next_of_not_starts t rfl, commandsBy_enqueueTask]
      exact timely.submission .compute (submission_enqueueTask t.state queue kernel wait)
    | flush queue =>
      obtain ⟨logged, began⟩ := logged_runPending timely.logged queue
      rw [next_of_starts t rfl, commandsBy_eq_nil _ fun _ => rfl]
      exact timely.start (start_runPending t.state queue) logged began
    | finish queue =>
      obtain ⟨logged, began⟩ := logged_runPending timely.logged queue
      rw [next_of_starts t rfl, commandsBy_eq_nil _ fun _ => rfl]
      refine timely.start (start_finish t.state queue) ?_ began
      exact logged.recalled (recalls_of_events (events_finish queue t.state))
    | _ => exact absurd rfl none

end Timely

/-- Every reachable simulator has a trace that is timely, as far as what was accepted is not looked
at. -/
theorem exists_timely {s : Simulator} (reachable : s.Reachable) :
    ∃ t : Trace, t.state = s ∧ t.Timely [] := by
  induction reachable with
  | start unused => exact ⟨_, rfl, timely_start unused⟩
  | next _ r ih =>
    obtain ⟨t, rfl, timely⟩ := ih
    exact ⟨t.next r, rfl, (timely.next r).mono (List.nil_subset _)⟩
  | setUp _ platforms devices hostKernels kernelTime bandwidth ih =>
    obtain ⟨t, rfl, timely⟩ := ih
    refine ⟨{ t with state := { t.state with platforms, devices, hostKernels, kernelTime, bandwidth } },
      rfl, ?_⟩
    exact timely.recalled (timely.sound.quiet rfl (Nat.le_refl _)) (recalls_of_events rfl)
      (Nat.le_refl _)

/-! ### Recordings -/

/-- Having a trace on which what was accepted is timely goes along with requests. -/
theorem recording_timely : Recording fun done s => ∃ t : Trace, t.state = s ∧ t.Timely done where
  answered {done s u r answer} called := by
    rintro ⟨t, rfl, timely⟩
    have later := timely.next r
    rw [commandsBy, called] at later
    refine ⟨t.next r, ?_, later⟩
    rw [next, Simulator.next, called, stateOf_ok]
  refused {done s u r status} called := by
    rintro ⟨t, rfl, timely⟩
    have later := timely.next r
    rw [commandsBy, called] at later
    refine ⟨t.next r, ?_, later⟩
    rw [next, Simulator.next, called, stateOf_error]

theorem run_append (t : Trace) (requests : List Request) (r : Request) :
    t.run (requests ++ [r]) = (t.run requests).next r := by
  rw [run, List.foldl_append]
  rfl

/-- So does being on the trace of the requests that a wrapper without instruments has seen. -/
theorem recording_run (t : Trace) : Recording fun done (s : Instrumented Simulator) =>
    s.instruments = {} ∧ (t.run s.requests).state = s.inner ∧ (t.run s.requests).Timely done where
  answered {done s u r answer} called := by
    rintro ⟨plain, state, timely⟩
    obtain ⟨asked, plain, requests⟩ := Instrumented.call_ok plain called
    have later := timely.next r
    rw [commandsBy, state, asked] at later
    rw [requests, run_append]
    refine ⟨plain, ?_, later⟩
    rw [next, Simulator.next, state, asked, stateOf_ok]
  refused {done s u r status} called := by
    rintro ⟨plain, state, timely⟩
    obtain ⟨asked, plain, requests⟩ := Instrumented.call_error plain called
    have later := timely.next r
    rw [commandsBy, state, asked] at later
    rw [requests, run_append]
    refine ⟨plain, ?_, later⟩
    rw [next, Simulator.next, state, asked, stateOf_error]

theorem state_run (t : Trace) (requests : List Request) :
    (t.run requests).state = requests.foldl Simulator.next t.state := by
  induction requests generalizing t with
  | nil => rfl
  | cons r rest ih => exact ih (t.next r)

/-- What a trace has carried out is carried out after what it had before. -/
theorem completed_run (t : Trace) (requests : List Request) :
    (t.run requests).completed = t.completed ++ (of t.state requests).completed := by
  induction requests generalizing t with
  | nil => exact (List.append_nil _).symm
  | cons r rest ih =>
    have first : (t.next r).completed = t.completed ++ t.state.completedBy r := rfl
    have start : (Trace.next { state := t.state } r).completed = t.state.completedBy r := rfl
    have here := ih (t.next r)
    have there := ih (Trace.next { state := t.state } r)
    rw [first, List.append_assoc] at here
    rw [start] at there
    exact here.trans (congrArg (t.completed ++ ·) there.symm)

end Trace

end FpgaHost
