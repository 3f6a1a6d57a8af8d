import FpgaHost.Proofs.Simulator.History

/-!
# Traces

A `Trace` follows a history of requests and keeps what the simulator itself forgets once a queue is
started or an event is given back: which commands were accepted on which queue, which were carried
out and how, and on which queues a start has failed. All of it is read off the calls; nothing in the
simulator depends on it.

Main statements: `change_next`, which says once what a request can do to a trace, and
`of_induction`, from which every invariant of histories follows.
-/

namespace FpgaHost

namespace Simulator

/-! ### What a request adds to a trace -/

/-- The command that a submission puts into a queue, if it is accepted. -/
def acceptedAs (queue : QueueHandle) :
    EStateM.Result Status Simulator EventHandle → List (QueueHandle × EventHandle)
  | .ok event _ => [(queue, event)]
  | .error _ _ => []

/-- The command that a request puts into a queue, if it is accepted. -/
def acceptedBy (s : Simulator) : Request → List (QueueHandle × EventHandle)
  | .enqueueMigrate queue buffers direction wait =>
    acceptedAs queue (enqueueMigrate queue buffers direction wait s)
  | .enqueueTask queue kernel wait => acceptedAs queue (enqueueTask queue kernel wait s)
  | _ => []

/-- The commands that a request carries out. -/
def completedBy (s : Simulator) (r : Request) : List (EventHandle × Option Execution) :=
  match r.starts? with
  | none => []
  | some queue => s.startOf queue

/-- The queue of a start that fails, if it is there. -/
def failedAs {α : Type} (s : Simulator) (queue : QueueHandle) :
    EStateM.Result Status Simulator α → List QueueHandle
  | .ok _ _ => []
  | .error _ _ => if s.queues.contains queue then [queue] else []

/-- The queue that is there and that a request fails to start. -/
def failedBy (s : Simulator) (r : Request) : List QueueHandle :=
  match r.starts? with
  | none => []
  | some queue => s.failedAs queue (ComputeApi.call r s)

end Simulator

/-- A simulator, and what has become of the commands of its queues. -/
structure Trace where
  /-- The simulator. -/
  state : Simulator
  /-- The commands accepted so far, each with its queue, in order. -/
  accepted : List (QueueHandle × EventHandle) := []
  /-- The commands carried out so far, in order. -/
  completed : List (EventHandle × Option Execution) := []
  /-- The queues on which a start has failed. -/
  failed : List QueueHandle := []

namespace Trace

open Simulator Steps

/-- The trace after one more request. -/
def next (t : Trace) (r : Request) : Trace where
  state := t.state.next r
  accepted := t.accepted ++ t.state.acceptedBy r
  completed := t.completed ++ t.state.completedBy r
  failed := t.failed ++ t.state.failedBy r

/-- The trace after more requests. -/
def run (t : Trace) (requests : List Request) : Trace := requests.foldl next t

/-- The trace of a history from its beginning. -/
def of (s : Simulator) (requests : List Request) : Trace := run { state := s } requests

theorem of_append (s : Simulator) (requests : List Request) (r : Request) :
    of s (requests ++ [r]) = (of s requests).next r := by
  rw [of, run, List.foldl_append]
  rfl

/-- What is true at the beginning and kept by every request is true of every history. -/
theorem of_induction {motive : Trace → Prop} {s : Simulator} (start : motive { state := s })
    (step : ∀ t r, motive t → motive (t.next r)) (requests : List Request) :
    motive (of s requests) := by
  suffices general : ∀ t, motive t → motive (t.run requests) from general _ start
  induction requests with
  | nil =>
    intro t h
    exact h
  | cons r rest ih =>
    intro t h
    exact ih (t.next r) (step t r h)

/-! ### What a request does to a trace -/

/-- What one request can do to a trace. -/
inductive Change (t : Trace) : Trace → Prop
  /-- No queue is reached. -/
  | quiet {u : Simulator} (queues : u.queues = t.state.queues)
      (nextId : t.state.nextId ≤ u.nextId) : Change t { t with state := u }
  /-- A queue is made. -/
  | created {u : Simulator} {q : Queue} (idle : q.pending = [])
      (queues : u.queues = t.state.queues.insert ⟨t.state.nextId⟩ q)
      (nextId : u.nextId = t.state.nextId + 1) : Change t { t with state := u }
  /-- A command is accepted. -/
  | submitted {u : Simulator} {queue : QueueHandle} {q : Queue}
      (found : t.state.queues.get? queue = some q)
      (queues : u.queues = t.state.queues.modify queue fun q =>
        { q with pending := q.pending ++ [⟨t.state.nextId⟩] })
      (nextId : u.nextId = t.state.nextId + 1) :
      Change t { t with state := u, accepted := t.accepted ++ [(queue, ⟨t.state.nextId⟩)] }
  /-- All that was pending on a queue is carried out. -/
  | started {u : Simulator} {queue : QueueHandle} {q r : Queue}
      {done : List (EventHandle × Option Execution)}
      (found : t.state.queues.get? queue = some q) (drained : Drained t.state queue r u)
      (all : done.map (·.1) = q.pending) (later : q.lastEnd ≤ r.lastEnd)
      (ended : EndedBy r.lastEnd done) :
      Change t { t with state := u, completed := t.completed ++ done }
  /-- A start fails at a command; that command and those after it are dropped. -/
  | broken {u : Simulator} {queue : QueueHandle} {q r : Queue}
      {done : List (EventHandle × Option Execution)} {stuck : EventHandle}
      {rest : List EventHandle}
      (found : t.state.queues.get? queue = some q) (drained : Drained t.state queue r u)
      (pending : q.pending = done.map (·.1) ++ stuck :: rest)
      (recorded : ∀ c ∈ done, ∃ x, c.2 = some x) :
      Change t { t with
        state := u, completed := t.completed ++ done, failed := t.failed ++ [queue] }

theorem change_self (t : Trace) : Change t t := .quiet rfl (Nat.le_refl _)

theorem next_of_queue?_eq_none (t : Trace) {r : Request} (none : r.queue? = none) :
    t.next r = { t with state := t.state.next r } := by
  have accepts : t.state.acceptedBy r = [] := by
    cases r <;> first | rfl | contradiction
  have starts : r.starts? = Option.none := by
    cases r <;> first | rfl | contradiction
  simp only [next, accepts, completedBy, failedBy, starts, List.append_nil]

theorem change_of_isQuiet (t : Trace) {r : Request} (quiet : r.isQuiet) : Change t (t.next r) := by
  obtain ⟨queues, nextId⟩ := quiet_next t.state quiet
  rw [next_of_queue?_eq_none t (Request.queue?_of_isQuiet quiet)]
  exact .quiet queues nextId

theorem change_createQueue (t : Trace) (context : ContextHandle) (device : DeviceId)
    (properties : QueueProperties) : Change t (t.next (.createQueue context device properties)) := by
  rw [next_of_queue?_eq_none t rfl, Simulator.next]
  simp only [ComputeApi.call, createQueue_eq]
  split
  · exact change_self t
  · exact .created (q := { properties }) rfl rfl rfl

/-- A submission that comes to an outcome changes a trace accordingly. -/
theorem change_of_submission (t : Trace) {queue : QueueHandle} {wait : List EventHandle}
    {outcome : EStateM.Result Status Simulator EventHandle}
    (submission : Submission t.state queue wait outcome) :
    Change t { t with
      state := stateOf outcome, accepted := t.accepted ++ acceptedAs queue outcome } := by
  cases submission with
  | refused status => simpa [acceptedAs] using change_self t
  | accepted command found => exact .submitted found rfl rfl

/-- A start that comes to an outcome changes a trace accordingly. -/
theorem change_of_start (t : Trace) {queue : QueueHandle}
    {outcome : EStateM.Result Status Simulator Unit} (start : Start t.state queue outcome) :
    Change t { t with
      state := stateOf outcome
      completed := t.completed ++ t.state.startOf queue
      failed := t.failed ++ t.state.failedAs queue outcome } := by
  cases start with
  | unknown missing =>
    have absent : t.state.queues.contains queue = false := by rw [Table.contains, missing]; rfl
    have idle : t.state.startOf queue = [] := by rw [startOf, missing]
    simpa [failedAs, absent, idle] using change_self t
  | succeeded lastEnd clock found advanced all later ended =>
    have drained := (((drained_taken found).advanced advanced).settled lastEnd).timed clock
    simpa [failedAs] using Change.started found drained all later ended
  | failed status found advanced pending recorded =>
    have drained := (drained_taken found).advanced advanced
    have present : t.state.queues.contains queue = true := Table.contains_iff.2 ⟨_, found⟩
    simpa [failedAs, present] using Change.broken found drained pending recorded

theorem next_of_starts (t : Trace) {r : Request} {queue : QueueHandle}
    (starts : r.starts? = some queue) : t.next r = { t with
      state := t.state.next r
      completed := t.completed ++ t.state.startOf queue
      failed := t.failed ++ t.state.failedAs queue (ComputeApi.call r t.state) } := by
  have none : t.state.acceptedBy r = [] := by
    cases r <;> first | rfl | contradiction
  simp only [next, completedBy, failedBy, starts, none, List.append_nil]

theorem next_of_not_starts (t : Trace) {r : Request} (starts : r.starts? = none) :
    t.next r = { t with
      state := t.state.next r, accepted := t.accepted ++ t.state.acceptedBy r } := by
  simp only [next, completedBy, failedBy, starts, List.append_nil]

/-- Every request does one of five things to a trace. -/
theorem change_next (t : Trace) (r : Request) : Change t (t.next r) := by
  by_cases quiet : r.isQuiet
  · exact change_of_isQuiet t quiet
  cases r with
  | createQueue context device properties => exact change_createQueue t context device properties
  | enqueueMigrate queue buffers direction wait =>
    rw [next_of_not_starts t rfl]
    exact change_of_submission t (submission_enqueueMigrate t.state queue buffers direction wait)
  | enqueueTask queue kernel wait =>
    rw [next_of_not_starts t rfl]
    exact change_of_submission t (submission_enqueueTask t.state queue kernel wait)
  | flush queue =>
    rw [next_of_starts t rfl]
    exact change_of_start t (start_runPending t.state queue)
  | finish queue =>
    rw [next_of_starts t rfl]
    exact change_of_start t (start_finish t.state queue)
  | _ => exact absurd rfl quiet

end Trace

end FpgaHost
