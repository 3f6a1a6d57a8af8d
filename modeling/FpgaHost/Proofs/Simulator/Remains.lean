import FpgaHost.Proofs.Device.Ledger
import FpgaHost.Proofs.Simulator.Prospect

/-!
# What remains on a simulator

The contexts and buffers that are there on a simulator, and the events that are not given back, are
those that were lent and not returned (`there_answered`, `there_refused`), so they are among what
its users hold (`accounting_covered`).

The records of events are another matter. Every pending command has one (`Recorded`), whether its
event is given back or not. So records remain as long as a command is pending, and with none they go
as soon as the records are looked through again (`eventCount_collectReleased`).
-/

namespace FpgaHost.Simulator

open Steps

variable {s t : Simulator} {r : Request} {queue : QueueHandle}

/-! ### What was lent -/

/-- Whether something that was lent is there. -/
def there (s : Simulator) : Loan → Bool
  | .context handle => s.contexts.contains handle
  | .buffer handle => s.buffers.contains handle
  | .event handle => (s.liveEvent? handle).isSome

theorem there_advanced (advanced : Advanced s t) (loan : Loan) : t.there loan = s.there loan := by
  cases loan with
  | context handle => rw [there, advanced.rest, there]
  | buffer handle => exact advanced.buffers handle
  | event handle =>
    have same := congrArg Option.isSome (advanced.liveEvent? handle)
    rwa [Option.isSome_map, Option.isSome_map] at same

theorem there_collectReleased (s : Simulator) (loan : Loan) :
    s.collectReleased.there loan = s.there loan := by
  cases loan with
  | context handle => rfl
  | buffer handle => rfl
  | event handle => exact congrArg Option.isSome (liveEvent?_collectReleased s handle)

/-- What changes only queues leaves everything that was lent. -/
theorem there_queues (s : Simulator) (queues : Table QueueHandle Queue) (loan : Loan) :
    there { s with queues } loan = s.there loan := by
  cases loan <;> rfl

/-- A start leaves everything that was lent. -/
theorem there_of_start {outcome : EStateM.Result Status Simulator Unit}
    (start : Start s queue outcome) (loan : Loan) : (stateOf outcome).there loan = s.there loan := by
  cases start with
  | unknown missing => rfl
  | @succeeded q u lastEnd clock found advanced all later ended =>
    have timed : there { u.settled queue lastEnd with clock } loan =
        (u.settled queue lastEnd).there loan := by
      cases loan <;> rfl
    rw [stateOf_ok, timed, settled, there_collectReleased, there_queues,
      there_advanced advanced, taken, there_queues]
  | failed status found advanced pending recorded =>
    rw [stateOf_error, there_advanced advanced, taken, there_queues]

/-- What is there after a submission is its event, or was there before. -/
theorem there_submitted (queue : QueueHandle) (profiling : Bool) (command : Command)
    (wait : List EventHandle) {loan : Loan}
    (remains : (s.submitted queue profiling command wait).there loan = true) :
    loan ∈ [Loan.event ⟨s.nextId⟩] ∨ s.there loan = true ∧ loan ∉ ([] : List Loan) := by
  cases loan with
  | context handle => exact .inr ⟨remains, List.not_mem_nil⟩
  | buffer handle => exact .inr ⟨remains, List.not_mem_nil⟩
  | event handle =>
    by_cases new : ⟨s.nextId⟩ = handle
    · rw [new]
      exact .inl List.mem_cons_self
    · rw [there, liveEvent?, submitted, Table.get?_insert_of_ne _ new] at remains
      exact .inr ⟨remains, List.not_mem_nil⟩

/-- What is there after an event is given back was there before, and is not that event. -/
theorem there_eventReleased {event : EventHandle} {loan : Loan}
    (remains : (s.eventReleased event).there loan = true) :
    s.there loan = true ∧ loan ≠ .event event := by
  rw [eventReleased, there_collectReleased] at remains
  cases loan with
  | context handle => exact ⟨remains, by simp⟩
  | buffer handle => exact ⟨remains, by simp⟩
  | event handle =>
    by_cases same : event = handle
    · rw [← same, there, liveEvent?, Table.get?_modify_self] at remains
      cases found : s.events.get? event <;> rw [found] at remains <;> contradiction
    · rw [there, liveEvent?, Table.get?_modify_of_ne _ same] at remains
      exact ⟨remains, fun h => same (Loan.event.inj h).symm⟩

/-- A quiet request that neither lends nor takes anything back leaves everything that was lent. -/
theorem there_of_isQuiet (quiet : r.isQuiet) (lends : ∀ outcome, r.lends outcome = [])
    (returns : r.returns = []) (loan : Loan) : (s.next r).there loan = s.there loan := by
  have does := does_next s r
  generalize s.next r = t at does
  cases does with
  | createContext device => exact absurd (lends (.ok ⟨0⟩)) (List.cons_ne_nil _ _)
  | createBuffer context flags size host ext long =>
    exact absurd (lends (.ok ⟨0⟩)) (List.cons_ne_nil _ _)
  | releaseContext context => contradiction
  | releaseBuffer buffer => contradiction
  | releaseEvent event => contradiction
  | createQueue context device properties => contradiction
  | submit loud queue profiling command wait => simp [quiet] at loud
  | stop loud queue advanced => simp [quiet] at loud
  | start loud queue advanced lastEnd clock => simp [quiet] at loud
  | overwriteHost buffer offset data =>
    cases loan with
    | buffer handle => exact Table.contains_modify s.buffers handle buffer _
    | _ => rfl
  | _ => cases loan <;> rfl

/-- What is there after a request was there before and is not given back by it, or is lent by its
answer. -/
def Lends (s : Simulator) (r : Request) : EStateM.Result Status Simulator r.Answer → Prop
  | .ok answer t => ∀ loan, t.there loan = true →
    loan ∈ r.lends (.ok answer) ∨ s.there loan = true ∧ loan ∉ r.returns
  | .error _ t => ∀ loan, t.there loan = true → s.there loan = true ∧ loan ∉ r.returns

/-- A request that leaves everything that was lent. -/
theorem lends_of_same (returns : r.returns = [])
    (same : ∀ loan, (s.next r).there loan = s.there loan) : s.Lends r (ComputeApi.call r s) := by
  cases called : ComputeApi.call r s with
  | ok answer t =>
    rw [next, called, stateOf_ok] at same
    intro loan remains
    rw [same] at remains
    exact .inr ⟨remains, by simp [returns]⟩
  | error status t =>
    rw [next, called, stateOf_error] at same
    intro loan remains
    rw [same] at remains
    exact ⟨remains, by simp [returns]⟩

theorem lends_createContext (s : Simulator) (device : DeviceId) :
    s.Lends (.createContext device) (createContext device s) := by
  rw [createContext_eq]
  repeat' split
  · exact fun loan remains => ⟨remains, List.not_mem_nil⟩
  · exact fun loan remains => ⟨remains, List.not_mem_nil⟩
  · intro loan remains
    cases loan with
    | context handle =>
      rcases Table.contains_insert.1 remains with rfl | before
      · exact .inl List.mem_cons_self
      · exact .inr ⟨before, List.not_mem_nil⟩
    | buffer handle => exact .inr ⟨remains, List.not_mem_nil⟩
    | event handle => exact .inr ⟨remains, List.not_mem_nil⟩

theorem lends_createBuffer (s : Simulator) (context : ContextHandle) (flags : MemFlags) (size : Nat)
    (host : Option Bytes) (ext : Option ExtPtr) :
    s.Lends (.createBuffer context flags size host ext)
      (createBuffer context flags size host ext s) := by
  rw [createBuffer_eq]
  repeat' split
  · exact fun loan remains => ⟨remains, List.not_mem_nil⟩
  · exact fun loan remains => ⟨remains, List.not_mem_nil⟩
  · exact fun loan remains => ⟨remains, List.not_mem_nil⟩
  · intro loan remains
    cases loan with
    | buffer handle =>
      rcases Table.contains_insert.1 remains with rfl | before
      · exact .inl List.mem_cons_self
      · exact .inr ⟨before, List.not_mem_nil⟩
    | context handle => exact .inr ⟨remains, List.not_mem_nil⟩
    | event handle => exact .inr ⟨remains, List.not_mem_nil⟩

theorem lends_enqueueMigrate (s : Simulator) (queue : QueueHandle) (buffers : List BufferHandle)
    (direction : Direction) (wait : List EventHandle) :
    s.Lends (.enqueueMigrate queue buffers direction wait)
      (enqueueMigrate queue buffers direction wait s) := by
  have submission := submission_enqueueMigrate s queue buffers direction wait
  generalize enqueueMigrate queue buffers direction wait s = outcome at submission ⊢
  cases submission with
  | refused status => exact fun loan remains => ⟨remains, List.not_mem_nil⟩
  | accepted command found => exact fun loan => there_submitted queue _ command wait

theorem lends_enqueueTask (s : Simulator) (queue : QueueHandle) (kernel : KernelHandle)
    (wait : List EventHandle) :
    s.Lends (.enqueueTask queue kernel wait) (enqueueTask queue kernel wait s) := by
  have submission := submission_enqueueTask s queue kernel wait
  generalize enqueueTask queue kernel wait s = outcome at submission ⊢
  cases submission with
  | refused status => exact fun loan remains => ⟨remains, List.not_mem_nil⟩
  | accepted command found => exact fun loan => there_submitted queue _ command wait

theorem lends_releaseContext (s : Simulator) (context : ContextHandle) :
    s.Lends (.releaseContext context) (releaseContext context s) := by
  rw [releaseContext_eq]
  split
  next missing =>
    intro loan remains
    refine ⟨remains, fun mem => ?_⟩
    rw [List.mem_singleton.1 mem, there] at remains
    simp [remains] at missing
  · intro loan remains
    cases loan with
    | context handle =>
      obtain ⟨ne, before⟩ := Table.contains_erase.1 remains
      refine .inr ⟨before, fun mem => ne ?_⟩
      exact Loan.context.inj (List.mem_singleton.1 mem)
    | buffer handle => exact .inr ⟨remains, by simp [Request.returns]⟩
    | event handle => exact .inr ⟨remains, by simp [Request.returns]⟩

theorem lends_releaseBuffer (s : Simulator) (buffer : BufferHandle) :
    s.Lends (.releaseBuffer buffer) (releaseBuffer buffer s) := by
  rw [releaseBuffer_eq]
  split
  next missing =>
    intro loan remains
    refine ⟨remains, fun mem => ?_⟩
    rw [List.mem_singleton.1 mem, there, Table.contains, missing] at remains
    contradiction
  · intro loan remains
    cases loan with
    | buffer handle =>
      obtain ⟨ne, before⟩ := Table.contains_erase.1 remains
      refine .inr ⟨before, fun mem => ne ?_⟩
      exact Loan.buffer.inj (List.mem_singleton.1 mem)
    | context handle => exact .inr ⟨remains, by simp [Request.returns]⟩
    | event handle => exact .inr ⟨remains, by simp [Request.returns]⟩

theorem lends_releaseEvent (s : Simulator) (event : EventHandle) :
    s.Lends (.releaseEvent event) (releaseEvent event s) := by
  rw [releaseEvent_eq]
  split
  next missing =>
    intro loan remains
    refine ⟨remains, fun mem => ?_⟩
    rw [List.mem_singleton.1 mem, there, missing] at remains
    contradiction
  · intro loan remains
    obtain ⟨before, ne⟩ := there_eventReleased remains
    exact .inr ⟨before, fun mem => ne (List.mem_singleton.1 mem)⟩

/-- Every request lends what its answer says and takes back what it names. -/
theorem lends_call (s : Simulator) (r : Request) : s.Lends r (ComputeApi.call r s) := by
  cases r with
  | createContext device => exact lends_createContext s device
  | createBuffer context flags size host ext => exact lends_createBuffer s context flags size host ext
  | releaseContext context => exact lends_releaseContext s context
  | releaseBuffer buffer => exact lends_releaseBuffer s buffer
  | releaseEvent event => exact lends_releaseEvent s event
  | flush queue => exact lends_of_same rfl (there_of_start (start_runPending s queue))
  | finish queue => exact lends_of_same rfl (there_of_start (start_finish s queue))
  | createQueue context device properties =>
    refine lends_of_same rfl fun loan => ?_
    simp only [next, ComputeApi.call, createQueue_eq]
    split
    · rfl
    · cases loan <;> rfl
  | enqueueMigrate queue buffers direction wait =>
    exact lends_enqueueMigrate s queue buffers direction wait
  | enqueueTask queue kernel wait => exact lends_enqueueTask s queue kernel wait
  | _ => exact lends_of_same rfl (there_of_isQuiet rfl (fun _ => rfl) rfl)

/-- Everything that is there is held. -/
def Covered (held : List Loan) (s : Simulator) : Prop := ∀ loan, s.there loan = true → loan ∈ held

/-- What is there is among what was lent and not returned. -/
theorem accounting_covered : Accounting Covered where
  perm covered same loan remains := same.mem_iff.1 (covered loan remains)
  answered {held s t r answer} called covered loan remains := by
    have lends := s.lends_call r
    rw [called] at lends
    rcases lends loan remains with lent | ⟨before, kept⟩
    · exact List.mem_append_left _ lent
    · exact List.mem_append_right _ ((List.mem_append.1 (covered loan before)).resolve_left kept)
  refused {held s t r status} called covered loan remains := by
    have lends := s.lends_call r
    rw [called] at lends
    obtain ⟨before, kept⟩ := lends loan remains
    exact (List.mem_append.1 (covered loan before)).resolve_left kept

theorem there_eq_false_of_covered (covered : s.Covered []) (loan : Loan) : s.there loan = false := by
  rw [← Bool.not_eq_true]
  exact fun remains => List.not_mem_nil (covered loan remains)

theorem bufferCount_of_covered (covered : s.Covered []) : s.bufferCount = 0 :=
  Table.size_eq_zero_iff.2 fun handle => there_eq_false_of_covered covered (.buffer handle)

theorem contextCount_of_covered (covered : s.Covered []) : s.contextCount = 0 :=
  Table.size_eq_zero_iff.2 fun handle => there_eq_false_of_covered covered (.context handle)

theorem liveEvent?_of_covered (covered : s.Covered []) (event : EventHandle) :
    s.liveEvent? event = none := by
  rw [← Option.isNone_iff_eq_none, ← Option.isSome_eq_false_iff]
  exact there_eq_false_of_covered covered (.event event)

/-- The contexts and the buffers that are there. -/
def fixtures (s : Simulator) : List Loan :=
  s.contexts.keys.map .context ++ s.buffers.keys.map .buffer

theorem event_not_mem_fixtures (s : Simulator) (event : EventHandle) :
    Loan.event event ∉ s.fixtures := by
  simp [fixtures]

/-- A simulator without records has lent nothing else. -/
theorem covered_fixtures (events : s.eventCount = 0) : s.Covered s.fixtures := by
  intro loan remains
  cases loan with
  | context handle =>
    exact List.mem_append_left _ (List.mem_map_of_mem (Table.mem_keys_iff.2 remains))
  | buffer handle =>
    exact List.mem_append_right _ (List.mem_map_of_mem (Table.mem_keys_iff.2 remains))
  | event handle =>
    have none := Table.contains_eq_false_iff.1 (Table.size_eq_zero_iff.1 events handle)
    rw [there, liveEvent?, none] at remains
    contradiction

/-- A simulator without contexts, buffers and records has lent nothing. -/
theorem covered_nil (contexts : s.contextCount = 0) (buffers : s.bufferCount = 0)
    (events : s.eventCount = 0) : s.Covered [] := by
  have none : s.fixtures = [] := by
    rw [fixtures, Table.keys, Table.keys, List.eq_nil_of_length_eq_zero contexts,
      List.eq_nil_of_length_eq_zero buffers]
    rfl
  exact none ▸ covered_fixtures events

/-! ### Records of pending commands -/

theorem pendingOf_congr (same : t.queues.get? queue = s.queues.get? queue) :
    t.pendingOf queue = s.pendingOf queue := by
  rw [pendingOf, pendingOf, same]

/-- Every pending command has a record. -/
def Recorded (s : Simulator) : Prop :=
  ∀ queue, ∀ e ∈ s.pendingOf queue, s.events.contains e = true

/-- A change by which no command is put into a queue and no record goes. -/
theorem Recorded.of_subset (recorded : s.Recorded)
    (pending : ∀ queue, t.pendingOf queue ⊆ s.pendingOf queue)
    (records : ∀ e, s.events.contains e = true → t.events.contains e = true) : t.Recorded :=
  fun queue e mem => records e (recorded queue e (pending queue mem))

/-- A change of a queue that puts no command into it. -/
theorem pendingOf_modify_subset (s : Simulator) (queue : QueueHandle) {f : Queue → Queue}
    (fewer : ∀ q, (f q).pending ⊆ q.pending) (j : QueueHandle) :
    pendingOf { s with queues := s.queues.modify queue f } j ⊆ s.pendingOf j := by
  by_cases same : queue = j
  · rw [← same, pendingOf, pendingOf, Table.get?_modify_self]
    cases s.queues.get? queue with
    | none => exact List.Subset.refl _
    | some q => exact fewer q
  · rw [pendingOf_congr (Table.get?_modify_of_ne s.queues same f)]
    exact List.Subset.refl _

/-- Records that are collected are none of pending commands. -/
theorem Recorded.collected (recorded : s.Recorded) : s.collectReleased.Recorded := by
  intro queue e mem
  obtain ⟨r, found⟩ := Table.contains_iff.1 (recorded queue e mem)
  exact Table.contains_iff.2 ⟨r, get?_of_pinned found (mem_pinned mem (mem_needs_self s e))⟩

theorem Recorded.advanced (recorded : s.Recorded) (advanced : Advanced s t) : t.Recorded := by
  refine recorded.of_subset (fun queue => ?_) fun e there => ?_
  · rw [pendingOf, advanced.queues, ← pendingOf]
    exact List.Subset.refl _
  · exact advanced.contains_events there

theorem Recorded.taken (recorded : s.Recorded) (queue : QueueHandle) : (s.taken queue).Recorded :=
  recorded.of_subset (pendingOf_modify_subset s queue fun _ => List.nil_subset _) fun _ there => there

theorem Recorded.submitted (recorded : s.Recorded) (queue : QueueHandle) (profiling : Bool)
    (command : Command) (wait : List EventHandle) :
    (s.submitted queue profiling command wait).Recorded := by
  intro j e mem
  refine Table.contains_insert.2 ?_
  by_cases same : queue = j
  · rw [← same, pendingOf, Simulator.submitted, Table.get?_modify_self] at mem
    cases found : s.queues.get? queue with
    | none =>
      rw [found] at mem
      contradiction
    | some q =>
      rw [found] at mem
      rcases List.mem_append.1 mem with before | new
      · have pending : e ∈ s.pendingOf queue := by rwa [pendingOf, found]
        exact .inr (recorded queue e pending)
      · exact .inl (List.mem_singleton.1 new)
  · rw [pendingOf_congr (Table.get?_modify_of_ne s.queues same _)] at mem
    exact .inr (recorded j e mem)

/-- Every request leaves a record of each pending command. -/
theorem Recorded.does (recorded : s.Recorded) (does : Does s r t) : t.Recorded := by
  cases does with
  | createQueue context device properties =>
    refine recorded.of_subset (fun queue => ?_) fun _ there => there
    by_cases new : ⟨s.nextId⟩ = queue
    · rw [← new, pendingOf, Table.get?_insert_self]
      exact List.nil_subset _
    · rw [pendingOf_congr (Table.get?_insert_of_ne s.queues new _)]
      exact List.Subset.refl _
  | submit loud queue profiling command wait => exact recorded.submitted queue profiling command wait
  | releaseEvent event =>
    have marked : Recorded { s with
        events := s.events.modify event fun r => { r with released := true } } :=
      recorded.of_subset (fun _ => List.Subset.refl _) fun e there =>
        (Table.contains_modify s.events e event _).trans there
    exact marked.collected
  | stop loud queue advanced => exact (recorded.taken queue).advanced advanced
  | @start _ u loud queue advanced lastEnd clock =>
    have carried := (recorded.taken queue).advanced advanced
    have ended : Recorded { u with queues := u.queues.modify queue fun q => { q with lastEnd } } :=
      carried.of_subset (pendingOf_modify_subset u queue fun _ => List.Subset.refl _)
        fun _ there => there
    exact ended.collected
  | _ => exact recorded

/-- Every pending command of a reachable simulator has a record. -/
theorem Reachable.recorded (reachable : s.Reachable) : s.Recorded := by
  induction reachable with
  | start unused =>
    intro queue e mem
    rw [pendingOf, unused.queues] at mem
    contradiction
  | next _ r ih => exact ih.does (does_next _ r)
  | setUp _ platforms devices hostKernels kernelTime bandwidth ih => exact ih

/-- Without records nothing is pending. -/
theorem Recorded.idle (recorded : s.Recorded) (none : s.eventCount = 0) (queue : QueueHandle) :
    s.pendingOf queue = [] := by
  rw [List.eq_nil_iff_forall_not_mem]
  intro e mem
  have there := recorded queue e mem
  rw [Table.size_eq_zero_iff.1 none] at there
  contradiction

/-- A submission to another queue puts no command into this one. -/
theorem pendingOf_of_submission {j : QueueHandle} (other : j ≠ queue) {wait : List EventHandle}
    {outcome : EStateM.Result Status Simulator EventHandle}
    (submission : Submission s j wait outcome) :
    (stateOf outcome).pendingOf queue = s.pendingOf queue := by
  cases submission with
  | refused status => rfl
  | accepted command found => exact pendingOf_congr (Table.get?_modify_of_ne s.queues other _)

/-- Neither does the start of another queue. -/
theorem pendingOf_of_start {j : QueueHandle} (other : j ≠ queue)
    {outcome : EStateM.Result Status Simulator Unit} (start : Start s j outcome) :
    (stateOf outcome).pendingOf queue = s.pendingOf queue := by
  cases start with
  | unknown missing => rfl
  | succeeded lastEnd clock found advanced all later ended =>
    have drained := (((drained_taken found).advanced advanced).settled lastEnd).timed clock
    exact pendingOf_congr (drained.elsewhere queue other)
  | failed status found advanced pending recorded =>
    exact pendingOf_congr (((drained_taken found).advanced advanced).elsewhere queue other)

/-- A queue without commands that a request does not reach stays without commands. -/
theorem idle_next (r : Request) (other : r.queue? ≠ some queue) (idle : s.pendingOf queue = []) :
    (s.next r).pendingOf queue = [] := by
  by_cases quiet : r.isQuiet
  · rw [pendingOf, (quiet_next s quiet).1, ← pendingOf, idle]
  have ne : ∀ {j}, r.queue? = some j → j ≠ queue := fun here same => other (same ▸ here)
  cases r with
  | createQueue context device properties =>
    simp only [next, ComputeApi.call, createQueue_eq]
    split
    · exact idle
    · by_cases new : ⟨s.nextId⟩ = queue
      · rw [← new, pendingOf, stateOf_ok, Table.get?_insert_self]
      · exact (pendingOf_congr (Table.get?_insert_of_ne s.queues new _)).trans idle
  | enqueueMigrate j buffers direction wait =>
    exact (pendingOf_of_submission (ne rfl)
      (submission_enqueueMigrate s j buffers direction wait)).trans idle
  | enqueueTask j kernel wait =>
    exact (pendingOf_of_submission (ne rfl) (submission_enqueueTask s j kernel wait)).trans idle
  | flush j => exact (pendingOf_of_start (ne rfl) (start_runPending s j)).trans idle
  | finish j => exact (pendingOf_of_start (ne rfl) (start_finish s j)).trans idle
  | _ => exact absurd rfl quiet

/-! ### Records that go -/

theorem pinned_of_idle (idle : ∀ queue, s.pendingOf queue = []) : s.pinned = [] := by
  rw [List.eq_nil_iff_forall_not_mem]
  intro e mem
  obtain ⟨q, there, mem⟩ := List.mem_flatMap.1 mem
  obtain ⟨⟨queue, q⟩, entry, rfl⟩ := List.mem_map.1 there
  have pending := idle queue
  rw [pendingOf, Table.mem_entries_iff.1 entry] at pending
  dsimp only at pending mem
  rw [pending] at mem
  contradiction

/-- When nothing is pending, only the records of events are kept that were not given back. -/
theorem get?_collectReleased_of_idle (idle : ∀ queue, s.pendingOf queue = []) (e : EventHandle) :
    s.collectReleased.events.get? e = s.liveEvent? e := by
  rw [get?_collectReleased, pinned_of_idle idle, liveEvent?]
  simp

/-- If none is left that was not given back either, no record is kept. -/
theorem eventCount_collectReleased (idle : ∀ queue, s.pendingOf queue = [])
    (none : ∀ e, s.liveEvent? e = none) : s.collectReleased.eventCount = 0 := by
  refine Table.size_eq_zero_iff.2 fun e => Table.contains_eq_false_iff.2 ?_
  rw [get?_collectReleased_of_idle idle, none]

/-- So it is after an event was given back. -/
theorem eventCount_eventReleased {event : EventHandle} (idle : ∀ queue, s.pendingOf queue = [])
    (none : ∀ e, (s.eventReleased event).liveEvent? e = none) :
    (s.eventReleased event).eventCount = 0 := by
  refine eventCount_collectReleased idle fun e => ?_
  have gone := none e
  rwa [eventReleased, liveEvent?_collectReleased] at gone

/-- So it is after a queue was finished: with nothing pending, the records are those of the events
that were not given back. -/
theorem get?_of_finish (finished : finish queue s = .ok () t)
    (idle : ∀ queue, t.pendingOf queue = []) (e : EventHandle) :
    t.events.get? e = t.liveEvent? e := by
  have start := start_finish s queue
  rw [finished] at start
  cases start with
  | @succeeded q u lastEnd clock found advanced all later ended =>
    have kept := get?_collectReleased_of_idle (s := { u with
      queues := u.queues.modify queue fun q => { q with lastEnd } }) idle e
    rw [← liveEvent?_collectReleased] at kept
    exact kept

theorem eventCount_of_finish (finished : finish queue s = .ok () t)
    (idle : ∀ queue, t.pendingOf queue = []) (none : ∀ e, t.liveEvent? e = none) :
    t.eventCount = 0 :=
  Table.size_eq_zero_iff.2 fun e => Table.contains_eq_false_iff.2
    ((get?_of_finish finished idle e).trans (none e))

end FpgaHost.Simulator
