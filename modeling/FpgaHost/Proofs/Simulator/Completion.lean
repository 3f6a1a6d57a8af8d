import FpgaHost.Proofs.Simulator.Trace
import Mathlib.Data.List.Nodup

/-!
# Which commands a finished queue has completed

A queue that answers `finish` has carried out everything it accepted, each command once and by the
simulated time, as long as no start of it has failed. A start that fails drops the command that
cannot run and all that stand after it, and a later `finish` answers without them; so a failed start
is the only way in which a command is lost, and it always loses one.

The invariant `Sound` speaks of one queue at a time: what was accepted on it is pending or carried
out by the end of its last command, unless a start has failed, and then something is neither. Each
way in which a request changes a trace keeps it.

Main statement: `finished_iff_not_failed`.
-/

namespace FpgaHost.Trace

open Simulator Steps

variable {t u : Trace} {queue : QueueHandle} {event : EventHandle}

/-! ### The invariant -/

/-- The events of the commands carried out so far. -/
def completedEvents (t : Trace) : List EventHandle := t.completed.map (·.1)

/-- What the record of a queue says of the commands accepted on it. -/
structure QueueSound (t : Trace) (queue : QueueHandle) (q : Queue) : Prop where
  /-- No command is pending twice. -/
  distinct : q.pending.Nodup
  /-- What is pending was accepted on the queue. -/
  accepted : ∀ event ∈ q.pending, (queue, event) ∈ t.accepted
  /-- What is pending was not carried out. -/
  waiting : ∀ event ∈ q.pending, event ∉ t.completedEvents
  /-- Unless a start has failed, a command is pending or was carried out by the last end. -/
  complete : queue ∉ t.failed → ∀ event, (queue, event) ∈ t.accepted →
    event ∈ q.pending ∨ ∃ x, (event, some x) ∈ t.completed ∧ x.ended ≤ q.lastEnd
  /-- If a start has failed, some command is neither. -/
  lost : queue ∈ t.failed →
    ∃ event, (queue, event) ∈ t.accepted ∧ event ∉ q.pending ∧ event ∉ t.completedEvents

/-- The invariant of histories. -/
structure Sound (t : Trace) : Prop where
  /-- The numbers of queues were given out. -/
  numbered : ∀ queue q, t.state.queues.get? queue = some q → queue.id < t.state.nextId
  /-- Commands are accepted on queues that are there. -/
  known : ∀ c ∈ t.accepted, t.state.queues.contains c.1 = true
  /-- The numbers of events were given out. -/
  issued : ∀ c ∈ t.accepted, c.2.id < t.state.nextId
  /-- No event stands for two commands. -/
  distinct : (t.accepted.map (·.2)).Nodup
  /-- No command is carried out twice. -/
  once : t.completedEvents.Nodup
  /-- Only commands that were accepted are carried out. -/
  accepted : ∀ event ∈ t.completedEvents, ∃ queue, (queue, event) ∈ t.accepted
  /-- The execution of every command is recorded. -/
  recorded : ∀ c ∈ t.completed, ∃ x, c.2 = some x
  /-- Starts fail on queues that are there. -/
  present : ∀ queue ∈ t.failed, t.state.queues.contains queue = true
  /-- Every queue is in order. -/
  queue : ∀ queue q, t.state.queues.get? queue = some q → t.QueueSound queue q

theorem sound_start {s : Simulator} (unused : s.Unused) : Sound { state := s } where
  numbered queue q found := by simp [unused.queues] at found
  known c mem := absurd mem List.not_mem_nil
  issued c mem := absurd mem List.not_mem_nil
  distinct := List.nodup_nil
  once := List.nodup_nil
  accepted event mem := absurd mem List.not_mem_nil
  recorded c mem := absurd mem List.not_mem_nil
  present queue mem := absurd mem List.not_mem_nil
  queue queue q found := by simp [unused.queues] at found

namespace QueueSound

/-- The rest of the state does not matter. -/
theorem withState {q : Queue} (sound : t.QueueSound queue q) (s : Simulator) :
    QueueSound { t with state := s } queue q := by
  obtain ⟨distinct, accepted, waiting, complete, lost⟩ := sound
  exact ⟨distinct, accepted, waiting, complete, lost⟩

/-- A queue without a command is in order if none was accepted on it and no start of it failed. -/
theorem of_unused {q : Queue} (idle : q.pending = []) (unused : ∀ event, (queue, event) ∉ t.accepted)
    (fine : queue ∉ t.failed) : t.QueueSound queue q where
  distinct := idle ▸ List.nodup_nil
  accepted event mem := by simp [idle] at mem
  waiting event mem := by simp [idle] at mem
  complete _ event mem := absurd mem (unused event)
  lost bad := absurd bad fine

/-- Commands of other queues that are carried out change nothing here. -/
theorem bystander {q : Queue} {s : Simulator} {done : List (EventHandle × Option Execution)}
    {failed : List QueueHandle} (sound : t.QueueSound queue q)
    (others : ∀ event, (queue, event) ∈ t.accepted → event ∉ done.map (·.1))
    (same : queue ∈ failed ↔ queue ∈ t.failed) :
    QueueSound { t with state := s, completed := t.completed ++ done, failed := failed }
      queue q where
  distinct := sound.distinct
  accepted := sound.accepted
  waiting event mem := by
    rw [completedEvents, List.map_append, List.mem_append]
    rintro (old | new)
    · exact sound.waiting event mem old
    · exact others event (sound.accepted event mem) new
  complete fine event mem := by
    rcases sound.complete (fun bad => fine (same.2 bad)) event mem with wait | ⟨x, old, by_end⟩
    · exact .inl wait
    · exact .inr ⟨x, List.mem_append_left _ old, by_end⟩
  lost bad := by
    obtain ⟨event, mem, idle, never⟩ := sound.lost (same.1 bad)
    refine ⟨event, mem, idle, ?_⟩
    rw [completedEvents, List.map_append, List.mem_append]
    rintro (old | new)
    · exact never old
    · exact others event mem new

/-- A command accepted on another queue changes nothing here. -/
theorem unaffected {q : Queue} {s : Simulator} {j : QueueHandle} {new : EventHandle}
    (sound : t.QueueSound queue q) (ne : j ≠ queue) :
    QueueSound { t with state := s, accepted := t.accepted ++ [(j, new)] } queue q where
  distinct := sound.distinct
  accepted event mem := List.mem_append_left _ (sound.accepted event mem)
  waiting := sound.waiting
  complete fine event mem := by
    rcases List.mem_append.1 mem with old | this
    · exact sound.complete fine event old
    · exact absurd (congrArg Prod.fst (List.mem_singleton.1 this)) ne.symm
  lost bad := by
    obtain ⟨event, mem, idle, never⟩ := sound.lost bad
    exact ⟨event, List.mem_append_left _ mem, idle, never⟩

/-- A command that is new to the trace is accepted here and waits at the end. -/
theorem extended {q : Queue} {s : Simulator} {new : EventHandle} (sound : t.QueueSound queue q)
    (fresh : ∀ j, (j, new) ∉ t.accepted) (never : new ∉ t.completedEvents) :
    QueueSound { t with state := s, accepted := t.accepted ++ [(queue, new)] } queue
      { q with pending := q.pending ++ [new] } where
  distinct := by
    rw [List.nodup_append]
    refine ⟨sound.distinct, List.nodup_singleton new, ?_⟩
    intro a old b this same
    rw [List.mem_singleton.1 this] at same
    exact fresh queue (same ▸ sound.accepted a old)
  accepted event mem := by
    rcases List.mem_append.1 mem with old | this
    · exact List.mem_append_left _ (sound.accepted event old)
    · rw [List.mem_singleton.1 this]
      exact List.mem_append_right _ List.mem_cons_self
  waiting event mem := by
    rcases List.mem_append.1 mem with old | this
    · exact sound.waiting event old
    · rw [List.mem_singleton.1 this]
      exact never
  complete fine event mem := by
    rcases List.mem_append.1 mem with old | this
    · exact (sound.complete fine event old).imp_left (List.mem_append_left _)
    · rw [(Prod.mk.inj (List.mem_singleton.1 this)).2]
      exact .inl (List.mem_append_right _ List.mem_cons_self)
  lost bad := by
    obtain ⟨event, mem, idle, missing⟩ := sound.lost bad
    refine ⟨event, List.mem_append_left _ mem, ?_, missing⟩
    rw [List.mem_append]
    rintro (old | this)
    · exact idle old
    · exact fresh queue (List.mem_singleton.1 this ▸ mem)

end QueueSound

namespace Sound

/-- An event is accepted on one queue only. -/
theorem queue_unique (sound : t.Sound) {j k : QueueHandle} (hj : (j, event) ∈ t.accepted)
    (hk : (k, event) ∈ t.accepted) : j = k :=
  congrArg Prod.fst (List.inj_on_of_nodup_map sound.distinct hj hk rfl)

/-- The number of the next handle stands for no queue yet. -/
theorem next_absent (sound : t.Sound) : t.state.queues.contains ⟨t.state.nextId⟩ = false := by
  rw [← Bool.not_eq_true, Table.contains_iff]
  rintro ⟨q, found⟩
  exact Nat.lt_irrefl _ (sound.numbered _ q found)

/-- The number of the next handle stands for no command yet. -/
theorem next_not_accepted (sound : t.Sound) (queue : QueueHandle) :
    (queue, ⟨t.state.nextId⟩) ∉ t.accepted := by
  intro mem
  exact Nat.lt_irrefl _ (sound.issued _ mem)

theorem next_not_completed (sound : t.Sound) : ⟨t.state.nextId⟩ ∉ t.completedEvents := by
  intro mem
  obtain ⟨queue, accepted⟩ := sound.accepted _ mem
  exact sound.next_not_accepted queue accepted

/-- If the queues stay, so does what is known of their numbers. -/
theorem numbered_of_kept (sound : t.Sound) {s : Simulator}
    (kept : ∀ j, s.queues.contains j = t.state.queues.contains j)
    (nextId : t.state.nextId ≤ s.nextId) (j : QueueHandle) (q : Queue)
    (found : s.queues.get? j = some q) : j.id < s.nextId := by
  have there := (kept j).symm.trans (Table.contains_iff.2 ⟨q, found⟩)
  obtain ⟨r, before⟩ := Table.contains_iff.1 there
  exact Nat.lt_of_lt_of_le (sound.numbered j r before) nextId

/-! ### Requests that start nothing -/

theorem quiet (sound : t.Sound) {s : Simulator} (queues : s.queues = t.state.queues)
    (nextId : t.state.nextId ≤ s.nextId) : Sound { t with state := s } where
  numbered queue q found := by
    rw [queues] at found
    exact Nat.lt_of_lt_of_le (sound.numbered queue q found) nextId
  known c mem := by
    rw [queues]
    exact sound.known c mem
  issued c mem := Nat.lt_of_lt_of_le (sound.issued c mem) nextId
  distinct := sound.distinct
  once := sound.once
  accepted := sound.accepted
  recorded := sound.recorded
  present queue mem := by
    rw [queues]
    exact sound.present queue mem
  queue queue q found := by
    rw [queues] at found
    exact (sound.queue queue q found).withState s

theorem created (sound : t.Sound) {s : Simulator} {q : Queue} (idle : q.pending = [])
    (queues : s.queues = t.state.queues.insert ⟨t.state.nextId⟩ q)
    (nextId : s.nextId = t.state.nextId + 1) : Sound { t with state := s } := by
  have absent := sound.next_absent
  have elsewhere : ∀ j, j ≠ ⟨t.state.nextId⟩ →
      s.queues.get? j = t.state.queues.get? j := by
    intro j ne
    rw [queues, Table.get?_insert_of_ne _ ne.symm]
  have kept : ∀ j, t.state.queues.contains j = true → s.queues.contains j = true := by
    intro j present
    rw [Table.contains, elsewhere j, ← Table.contains, present]
    rintro rfl
    exact absurd present (by rw [absent]; decide)
  refine { sound with numbered := ?_, known := ?_, issued := ?_, present := ?_, queue := ?_ }
  · intro j r found
    rw [nextId]
    by_cases new : j = ⟨t.state.nextId⟩
    · rw [new]
      exact Nat.lt_succ_self _
    · rw [elsewhere j new] at found
      exact Nat.lt_succ_of_lt (sound.numbered j r found)
  · intro c mem
    exact kept c.1 (sound.known c mem)
  · intro c mem
    rw [nextId]
    exact Nat.lt_succ_of_lt (sound.issued c mem)
  · intro j mem
    exact kept j (sound.present j mem)
  · intro j r found
    by_cases new : j = ⟨t.state.nextId⟩
    · obtain rfl : q = r := by
        rw [queues, new, Table.get?_insert_self] at found
        exact Option.some.inj found
      -- Nothing was accepted on a queue that was not there, and no start of it has failed.
      rw [new]
      refine .of_unused idle (fun event mem => ?_) fun mem => ?_
      · exact absurd (sound.known _ mem) (by simp [absent])
      · exact absurd (sound.present _ mem) (by simp [absent])
    · rw [elsewhere j new] at found
      exact (sound.queue j r found).withState s

theorem submitted (sound : t.Sound) {s : Simulator} {queue : QueueHandle} {q : Queue}
    (found : t.state.queues.get? queue = some q)
    (queues : s.queues = t.state.queues.modify queue fun q =>
      { q with pending := q.pending ++ [⟨t.state.nextId⟩] })
    (nextId : s.nextId = t.state.nextId + 1) :
    Sound { t with state := s, accepted := t.accepted ++ [(queue, ⟨t.state.nextId⟩)] } := by
  have kept : ∀ j, s.queues.contains j = t.state.queues.contains j := by
    intro j
    rw [queues, Table.contains_modify]
  refine { sound with
    numbered := ?_, known := ?_, issued := ?_, distinct := ?_, accepted := ?_, present := ?_
    queue := ?_ }
  · exact sound.numbered_of_kept kept (by rw [nextId]; exact Nat.le_succ _)
  · intro c mem
    rw [kept]
    rcases List.mem_append.1 mem with old | new
    · exact sound.known c old
    · rw [List.mem_singleton.1 new]
      exact Table.contains_iff.2 ⟨q, found⟩
  · intro c mem
    rw [nextId]
    rcases List.mem_append.1 mem with old | new
    · exact Nat.lt_succ_of_lt (sound.issued c old)
    · rw [List.mem_singleton.1 new]
      exact Nat.lt_succ_self _
  · rw [List.map_append, List.nodup_append]
    refine ⟨sound.distinct, List.nodup_singleton _, ?_⟩
    intro a old b new same
    obtain ⟨c, mem, rfl⟩ := List.mem_map.1 old
    rw [List.mem_singleton.1 new] at same
    have new : c = (c.1, ⟨t.state.nextId⟩) := Prod.ext rfl same
    exact sound.next_not_accepted c.1 (new ▸ mem)
  · intro event mem
    obtain ⟨j, accepted⟩ := sound.accepted event mem
    exact ⟨j, List.mem_append_left _ accepted⟩
  · intro j mem
    rw [kept]
    exact sound.present j mem
  · intro j r here
    by_cases same : queue = j
    · subst same
      obtain rfl : { q with pending := q.pending ++ [⟨t.state.nextId⟩] } = r := by
        rw [queues, Table.get?_modify_self, found] at here
        exact Option.some.inj here
      exact (sound.queue queue q found).extended sound.next_not_accepted sound.next_not_completed
    · rw [queues, Table.get?_modify_of_ne _ same] at here
      exact (sound.queue j r here).unaffected same

/-! ### Starts -/

/-- What is carried out by a start was accepted on that queue and on no other. -/
theorem not_mem_of_ne (sound : t.Sound) {queue j : QueueHandle} {q : Queue} (ne : queue ≠ j)
    (found : t.state.queues.get? queue = some q) (accepted : (j, event) ∈ t.accepted) :
    event ∉ q.pending := by
  intro mem
  exact ne (sound.queue_unique ((sound.queue queue q found).accepted event mem) accepted)

/-- What a start keeps, whether it succeeds or fails: commands that were pending on a queue are
carried out, and some queues are known to have failed. -/
theorem carriedOut (sound : t.Sound) {s : Simulator} {queue : QueueHandle} {q r : Queue}
    {done : List (EventHandle × Option Execution)} {failed : List QueueHandle}
    (found : t.state.queues.get? queue = some q) (drained : Drained t.state queue r s)
    (once : (done.map (·.1)).Nodup) (pending : ∀ event ∈ done.map (·.1), event ∈ q.pending)
    (recorded : ∀ c ∈ done, ∃ x, c.2 = some x)
    (elsewhere : ∀ j, queue ≠ j → (j ∈ failed ↔ j ∈ t.failed))
    (here : QueueSound { t with state := s, completed := t.completed ++ done, failed := failed }
      queue r) :
    Sound { t with state := s, completed := t.completed ++ done, failed := failed } := by
  have kept : ∀ j, s.queues.contains j = t.state.queues.contains j := by
    intro j
    by_cases same : queue = j
    · rw [← same, Table.contains, Table.contains, drained.here, found]
      rfl
    · rw [Table.contains, Table.contains, drained.elsewhere j same]
  have split : completedEvents { t with state := s, completed := t.completed ++ done, failed := failed }
      = t.completedEvents ++ done.map (·.1) := List.map_append
  refine ⟨?_, ?_, ?_, sound.distinct, ?_, ?_, ?_, ?_, ?_⟩
  · exact sound.numbered_of_kept kept (Nat.le_of_eq drained.nextId.symm)
  · intro c mem
    rw [kept]
    exact sound.known c mem
  · intro c mem
    rw [drained.nextId]
    exact sound.issued c mem
  · rw [split, List.nodup_append]
    refine ⟨sound.once, once, ?_⟩
    intro a old b new same
    exact (sound.queue queue q found).waiting b (pending b new) (same ▸ old)
  · intro event mem
    rw [split, List.mem_append] at mem
    rcases mem with old | new
    · exact sound.accepted event old
    · exact ⟨queue, (sound.queue queue q found).accepted event (pending event new)⟩
  · intro c mem
    rcases List.mem_append.1 mem with old | new
    · exact sound.recorded c old
    · exact recorded c new
  · intro j mem
    rw [kept]
    by_cases same : queue = j
    · rw [← same]
      exact Table.contains_iff.2 ⟨q, found⟩
    · exact sound.present j ((elsewhere j same).1 mem)
  · intro j p there
    by_cases same : queue = j
    · subst same
      obtain rfl : r = p := Option.some.inj (drained.here.symm.trans there)
      exact here
    · rw [drained.elsewhere j same] at there
      refine (sound.queue j p there).bystander (fun event mem new => ?_) (elsewhere j same)
      exact sound.not_mem_of_ne same found mem (pending event new)

theorem started (sound : t.Sound) {s : Simulator} {queue : QueueHandle} {q r : Queue}
    {done : List (EventHandle × Option Execution)} (found : t.state.queues.get? queue = some q)
    (drained : Drained t.state queue r s) (all : done.map (·.1) = q.pending)
    (later : q.lastEnd ≤ r.lastEnd) (ended : EndedBy r.lastEnd done) :
    Sound { t with state := s, completed := t.completed ++ done } := by
  have before := sound.queue queue q found
  have elsewhere : ∀ j, queue ≠ j → (j ∈ t.failed ↔ j ∈ t.failed) := fun j ne => Iff.rfl
  refine sound.carriedOut found drained (all ▸ before.distinct) (fun event mem => all ▸ mem)
    (fun c mem => (ended c mem).imp fun x h => h.1) elsewhere ⟨?_, ?_, ?_, ?_, ?_⟩
  · simp [drained.idle]
  · simp [drained.idle]
  · simp [drained.idle]
  · intro fine event mem
    refine .inr ?_
    rcases before.complete fine event mem with wait | ⟨x, old, by_end⟩
    · rw [← all] at wait
      obtain ⟨c, new, rfl⟩ := List.mem_map.1 wait
      obtain ⟨x, recorded, by_end⟩ := ended c new
      have same : c = (c.1, some x) := Prod.ext rfl recorded
      exact ⟨x, List.mem_append_right _ (same ▸ new), by_end⟩
    · exact ⟨x, List.mem_append_left _ old, Nat.le_trans by_end later⟩
  · intro bad
    obtain ⟨event, mem, idle, never⟩ := before.lost bad
    refine ⟨event, mem, by simp [drained.idle], ?_⟩
    rw [completedEvents, List.map_append, List.mem_append, all]
    rintro (old | new)
    · exact never old
    · exact idle new

theorem broken (sound : t.Sound) {s : Simulator} {queue : QueueHandle} {q r : Queue}
    {done : List (EventHandle × Option Execution)} {stuck : EventHandle} {rest : List EventHandle}
    (found : t.state.queues.get? queue = some q) (drained : Drained t.state queue r s)
    (pending : q.pending = done.map (·.1) ++ stuck :: rest)
    (recorded : ∀ c ∈ done, ∃ x, c.2 = some x) :
    Sound { t with
      state := s, completed := t.completed ++ done, failed := t.failed ++ [queue] } := by
  have before := sound.queue queue q found
  have distinct := before.distinct
  rw [pending, List.nodup_append] at distinct
  obtain ⟨once, -, apart⟩ := distinct
  have waiting : stuck ∈ q.pending := by simp [pending]
  refine sound.carriedOut found drained once (fun event mem => pending ▸ List.mem_append_left _ mem)
    recorded (fun j ne => by simp [ne.symm]) ⟨?_, ?_, ?_, ?_, ?_⟩
  · simp [drained.idle]
  · simp [drained.idle]
  · simp [drained.idle]
  · intro fine
    exact absurd (List.mem_append_right _ List.mem_cons_self) fine
  -- The command that could not run is lost.
  · intro _
    refine ⟨stuck, before.accepted stuck waiting, by simp [drained.idle], ?_⟩
    rw [completedEvents, List.map_append, List.mem_append]
    rintro (old | new)
    · exact before.waiting stuck waiting old
    · exact apart stuck new stuck List.mem_cons_self rfl

theorem change (sound : t.Sound) (h : Change t u) : u.Sound := by
  cases h with
  | quiet queues nextId => exact sound.quiet queues nextId
  | created idle queues nextId => exact sound.created idle queues nextId
  | submitted found queues nextId => exact sound.submitted found queues nextId
  | started found drained all later ended => exact sound.started found drained all later ended
  | broken found drained pending recorded => exact sound.broken found drained pending recorded

end Sound

/-- Every history keeps the invariant. -/
theorem sound_of {s : Simulator} (unused : s.Unused) (requests : List Request) :
    (of s requests).Sound :=
  of_induction (sound_start unused) (fun t r sound => sound.change (change_next t r)) requests

/-! ### Finished queues -/

/-- All commands accepted on a queue were carried out, each once, with its instants recorded and
ended by the simulated time. -/
def Finished (t : Trace) (queue : QueueHandle) : Prop :=
  ∀ event, (queue, event) ∈ t.accepted →
    ∃ x, t.completed.filter (·.1 = event) = [(event, some x)] ∧ x.ended ≤ t.state.clock

theorem filter_eq_singleton {done : List (EventHandle × Option Execution)}
    (once : (done.map (·.1)).Nodup) {x : Option Execution} (mem : (event, x) ∈ done) :
    done.filter (·.1 = event) = [(event, x)] := by
  induction done with
  | nil => contradiction
  | cons c rest ih =>
    obtain ⟨new, once⟩ := List.nodup_cons.1 once
    rcases List.mem_cons.1 mem with rfl | later
    · have others : rest.filter (·.1 = event) = [] := by
        rw [List.filter_eq_nil_iff]
        intro d there same
        exact new (List.mem_map.2 ⟨d, there, of_decide_eq_true same⟩)
      rw [List.filter_cons_of_pos (by simp), others]
    · have ne : c.1 ≠ event := fun same => new (List.mem_map.2 ⟨_, later, same.symm⟩)
      rw [List.filter_cons_of_neg (by simpa using ne), ih once later]

/-- A finish that succeeds leaves the clock at the end of the last command of its queue or later. -/
theorem lastEnd_le_clock {s v : Simulator} (ok : finish queue s = .ok () v) {q : Queue}
    (found : v.queues.get? queue = some q) : q.lastEnd ≤ v.clock := by
  rw [finish_eq] at ok
  cases ran : runPending queue s with
  | error status w => simp [ran] at ok
  | ok _ w =>
    rw [ran] at ok
    obtain ⟨-, rfl⟩ : () = () ∧ _ = v := by simpa using ok
    have found : w.queues.get? queue = some q := found
    simp only [found, Option.map_some, Option.getD_some]
    exact Nat.le_max_right _ _

/-- A finish that succeeds leaves nothing pending. -/
theorem idle_of_finish {s v : Simulator} (ok : finish queue s = .ok () v) :
    ∃ q, v.queues.get? queue = some q ∧ q.pending = [] := by
  have start := start_finish s queue
  rw [ok] at start
  cases start with
  | succeeded lastEnd clock found advanced all later ended =>
    have drained := ((drained_taken found).advanced advanced).settled lastEnd
    exact ⟨_, drained.here, drained.idle⟩

/-- A queue on which nothing is pending and whose last command has ended by the clock has completed
all that was accepted on it exactly if no start of it has failed. -/
theorem Sound.finished_iff (sound : t.Sound) {q : Queue}
    (found : t.state.queues.get? queue = some q) (idle : q.pending = [])
    (ended : q.lastEnd ≤ t.state.clock) : t.Finished queue ↔ queue ∉ t.failed := by
  have here := sound.queue queue q found
  constructor
  · intro finished bad
    obtain ⟨event, mem, -, never⟩ := here.lost bad
    obtain ⟨x, once, -⟩ := finished event mem
    have completed : (event, some x) ∈ t.completed := by
      refine (List.mem_filter (p := (·.1 = event))).1 ?_ |>.1
      rw [once]
      exact List.mem_cons_self
    exact never (List.mem_map.2 ⟨_, completed, rfl⟩)
  · intro fine event mem
    rcases here.complete fine event mem with wait | ⟨x, completed, by_end⟩
    · rw [idle] at wait
      contradiction
    · exact ⟨x, filter_eq_singleton sound.once completed, Nat.le_trans by_end ended⟩

/-- A queue that answers `finish` has completed everything it ever accepted exactly if no start of
it has failed before. -/
theorem finished_iff_not_failed {s v : Simulator} (unused : s.Unused) (requests : List Request)
    (queue : QueueHandle)
    (ok : ComputeApi.call (.finish queue) (of s requests).state = .ok () v) :
    (of s (requests ++ [.finish queue])).Finished queue ↔ queue ∉ (of s requests).failed := by
  have sound := sound_of unused (requests ++ [.finish queue])
  have state : (of s (requests ++ [.finish queue])).state = v := by
    rw [of_append, next_of_starts _ rfl]
    exact (congrArg stateOf ok).trans rfl
  have failed : (of s (requests ++ [.finish queue])).failed = (of s requests).failed := by
    rw [of_append, next_of_starts _ rfl]
    simp only [ok, failedAs, List.append_nil]
  obtain ⟨q, found, idle⟩ := idle_of_finish ok
  have ended := lastEnd_le_clock ok found
  rw [← state] at found ended
  rw [← failed]
  exact sound.finished_iff found idle ended

/-! ### A command that is lost -/

/-- A device with two queues: a copy on the first, and a copy back on the second that waits for
it. -/
def twoCopies : List Request :=
  [.createContext ⟨0⟩, .createQueue ⟨1⟩ ⟨0⟩ {}, .createQueue ⟨1⟩ ⟨0⟩ {},
    .createBuffer ⟨1⟩ .readWrite 4 none none, .enqueueMigrate ⟨2⟩ [⟨4⟩] .toDevice [],
    .enqueueMigrate ⟨3⟩ [⟨4⟩] .toHost [⟨5⟩]]

/-- The first queue is finished. -/
def inTime : List Request := twoCopies ++ [.finish ⟨2⟩]

/-- The second queue is started, in vain, before the first is finished. -/
def tooEarly : List Request := twoCopies ++ [.flush ⟨3⟩, .finish ⟨2⟩]

/-- Finishing the second queue completes its copy if it was not started too early. -/
theorem finished_inTime_not_tooEarly :
    (of (.forDevice "xilinx" "u200") (inTime ++ [.finish ⟨3⟩])).Finished ⟨3⟩ ∧
      ¬ (of (.forDevice "xilinx" "u200") (tooEarly ++ [.finish ⟨3⟩])).Finished ⟨3⟩ := by
  have unused : (Simulator.forDevice "xilinx" "u200").Unused :=
    ⟨rfl, rfl, rfl, rfl, rfl, rfl, rfl⟩
  constructor
  · exact (finished_iff_not_failed unused inTime ⟨3⟩ rfl).2 (by decide)
  · intro finished
    exact (finished_iff_not_failed unused tooEarly ⟨3⟩ rfl).1 finished (by decide)

/-- A queue can answer `finish` without having completed what it accepted: the copy back, event 6,
is carried out by no start. -/
theorem not_finished_of_finish_ok :
    ¬ ∀ (s v : Simulator) (requests : List Request) (queue : QueueHandle), s.Unused →
      ComputeApi.call (.finish queue) (of s requests).state = .ok () v →
      (of s (requests ++ [.finish queue])).Finished queue := by
  intro always
  have unused : (Simulator.forDevice "xilinx" "u200").Unused :=
    ⟨rfl, rfl, rfl, rfl, rfl, rfl, rfl⟩
  have finished := always (.forDevice "xilinx" "u200") _ tooEarly ⟨3⟩ unused rfl
  obtain ⟨x, once, -⟩ := finished ⟨6⟩ (by decide)
  have never : (of (.forDevice "xilinx" "u200") (tooEarly ++ [.finish ⟨3⟩])).completed.filter
      (·.1 = ⟨6⟩) = [] := by decide
  rw [never] at once
  contradiction

end FpgaHost.Trace
