import FpgaHost.Proofs.Simulator.Handles
import FpgaHost.Proofs.Simulator.Records
import FpgaHost.Word
import Mathlib.Order.Bounds.Basic

/-!
# The instants of commands

The clock never goes back, and a command is taken from its queue once at most, so it is carried out
once at most. When it is, its instants are in order, and say when it was put into its queue, when
that was started, when all that it waits for had ended, and how long it took; out of order it began
the very moment that allowed. This is true of every command that was ever carried out, also if its
event was given back and its record dropped, or if the start that carried it out failed at a later
command. It is said of histories whose times do not outgrow words (`InWords`).

Main statement: `timing_law`.
-/

namespace FpgaHost

open Steps

/-- A start leaves queues working as they did. -/
theorem Simulator.Launch.propertiesOf {s : Simulator} {queue : QueueHandle} {q : Queue}
    {runs : List (EventHandle × Execution)} {outcome : EStateM.Result Status Simulator Unit}
    (launch : Simulator.Launch s queue q runs outcome) (k : QueueHandle) :
    (stateOf outcome).propertiesOf k = s.propertiesOf k := by
  have taken : (s.taken queue).propertiesOf k = s.propertiesOf k :=
    propertiesOf_of_modify s queue k fun _ => rfl
  cases launch with
  | @succeeded last u carried all clock later =>
    have settled : (u.settled queue last).propertiesOf k = u.propertiesOf k :=
      propertiesOf_of_modify u queue k fun _ => rfl
    refine settled.trans (Eq.trans ?_ taken)
    rw [Simulator.propertiesOf, carried.advanced.queues, Simulator.propertiesOf]
  | failed carried pending stopped =>
    refine Eq.trans ?_ taken
    rw [stateOf_error, Simulator.propertiesOf, (carried.advanced_stopped stopped).queues,
      Simulator.propertiesOf]

open Simulator

/-- The commands that a start took from its queue, whether or not it carried them out. -/
def Round.taken (round : Round) : List EventHandle := round.before.pendingOf round.queue

namespace Chronicle

variable {c u : Chronicle}

/-! ### Turns -/

/-- No event stands for two commands. -/
theorem Sound.commission_unique (sound : c.Sound) {o p : Commission} (ho : o ∈ c.commissions)
    (hp : p ∈ c.commissions) (same : o.event = p.event) : o = p := by
  have distinct := sound.trace.distinct
  rw [Chronicle.trace, List.map_map] at distinct
  exact List.inj_on_of_nodup_map distinct ho hp same

/-- The number of the next handle is that of no command yet. -/
theorem Sound.issued (sound : c.Sound) {o : Commission} (mem : o ∈ c.commissions) :
    o.event.id < c.state.nextId :=
  sound.trace.issued (o.queue, o.event) (List.mem_map.2 ⟨o, mem, rfl⟩)

/-- What is pending on a queue was put into it. -/
theorem Sound.pending (sound : c.Sound) {queue : QueueHandle} {q : Queue} {e : EventHandle}
    (found : c.state.queues.get? queue = some q) (mem : e ∈ q.pending) :
    ∃ o ∈ c.commissions, o.event = e ∧ o.queue = queue := by
  have accepted := (sound.trace.queue queue q found).accepted e mem
  obtain ⟨o, there, same⟩ := List.mem_map.1 accepted
  exact ⟨o, there, congrArg Prod.snd same, congrArg Prod.fst same⟩

namespace Turn

/-- The clock never goes back. -/
theorem clock_le (turn : Turn c u) : c.state.clock ≤ u.state.clock := by
  cases turn with
  | quiet same => exact Nat.le_of_eq same.clock.symm
  | created properties => exact Nat.le_refl _
  | commissioned found command live => exact Nat.le_add_right _ _
  | returned live => exact Nat.le_refl _
  | started found launch => exact launch.clock_le

/-- Queues work as they did. -/
theorem propertiesOf (turn : Turn c u) (sound : c.Sound) {k : QueueHandle}
    (present : c.state.queues.contains k = true) :
    u.state.propertiesOf k = c.state.propertiesOf k := by
  cases turn with
  | quiet same => rw [Simulator.propertiesOf, Simulator.propertiesOf, same.queues]
  | created properties =>
    have new : (⟨c.state.nextId⟩ : QueueHandle) ≠ k := by
      rintro rfl
      exact Nat.lt_irrefl _ (sound.reachable.numbered.queues _ present)
    rw [Simulator.propertiesOf, Simulator.propertiesOf, Table.get?_insert_of_ne _ new]
  | commissioned found command live => exact propertiesOf_of_modify c.state _ k fun _ => rfl
  | returned live => rfl
  | started found launch => exact launch.propertiesOf k

/-- So queues stay. -/
theorem works (turn : Turn c u) (sound : c.Sound) {k : QueueHandle}
    (present : c.state.queues.contains k = true) : u.state.queues.contains k = true ∧
      u.state.propertiesOf k = c.state.propertiesOf k := by
  have same := turn.propertiesOf sound present
  have there := congrArg Option.isSome same
  rw [Simulator.propertiesOf, Simulator.propertiesOf, Option.isSome_map, Option.isSome_map] at there
  exact ⟨there.trans present, same⟩

/-- Commands that were put into queues stay in the chronicle. -/
theorem commissions_subset (turn : Turn c u) : c.commissions ⊆ u.commissions := by
  cases turn with
  | commissioned found command live => exact List.subset_append_left _ _
  | _ => exact List.Subset.refl _

/-- Commands that were carried out stay in the log as they are. -/
theorem log_prefix (turn : Turn c u) : c.log <+: u.log := by
  cases turn with
  | started found launch =>
    rw [log_append]
    exact List.prefix_append _ _
  | _ => exact List.prefix_refl _

end Turn

/-! ### Commands that were taken -/

/-- The commands that starts have taken from their queues so far, in order. -/
def taken (c : Chronicle) : List EventHandle := c.rounds.flatMap (·.taken)

/-- No start takes a command from its queue that another has taken. -/
structure Taken (c : Chronicle) : Prop where
  /-- No command was taken twice. -/
  once : c.taken.Nodup
  /-- What was taken had been put into a queue. -/
  known : ∀ e ∈ c.taken, ∃ o ∈ c.commissions, o.event = e
  /-- Nothing is pending that was taken. -/
  gone : ∀ queue q, c.state.queues.get? queue = some q → ∀ e ∈ q.pending, e ∉ c.taken

theorem taken_append (c : Chronicle) (state : Simulator) (round : Round) :
    taken { c with state, rounds := c.rounds ++ [round] } = c.taken ++ round.taken := by
  rw [taken, List.flatMap_append, List.flatMap_singleton]
  rfl

theorem taken_start : Taken {} where
  once := List.nodup_nil
  known _ mem := absurd mem List.not_mem_nil
  gone queue q found := by contradiction

/-- A start takes all that is pending on its queue and nothing that is pending elsewhere. -/
theorem Taken.started (taken : c.Taken) (sound : c.Sound) {queue : QueueHandle} {q : Queue}
    {outcome : EStateM.Result Status Simulator Unit} (found : c.state.queues.get? queue = some q)
    (launch : Launch c.state queue q (c.state.runsOf queue) outcome) {answered : Bool} :
    Taken { c with
      state := stateOf outcome, rounds := c.rounds ++ [⟨c.state, queue, answered⟩] } := by
  obtain ⟨r, drained⟩ := launch.drained found
  have pending : Round.taken ⟨c.state, queue, answered⟩ = q.pending := by
    rw [Round.taken, Simulator.pendingOf, found]
  refine ⟨?_, fun e mem => ?_, fun k p there e mem => ?_⟩
  · rw [taken_append, pending]
    refine List.nodup_append.2 ⟨taken.once, (sound.trace.queue queue q found).distinct, ?_⟩
    rintro e before _ now rfl
    exact taken.gone queue q found e now before
  · rw [taken_append, pending] at mem
    rcases List.mem_append.1 mem with before | now
    · exact taken.known e before
    · obtain ⟨o, mine, same, -⟩ := sound.pending found now
      exact ⟨o, mine, same⟩
  · rw [taken_append, pending]
    by_cases same : queue = k
    · subst same
      obtain rfl := Option.some.inj (drained.here.symm.trans there)
      rw [drained.idle] at mem
      contradiction
    · rw [drained.elsewhere k same] at there
      intro among
      rcases List.mem_append.1 among with before | now
      · exact taken.gone k p there e mem before
      · -- One event would be pending on two queues.
        obtain ⟨o, mine, here, on⟩ := sound.pending found now
        obtain ⟨o', its, there', on'⟩ := sound.pending there mem
        obtain rfl := sound.commission_unique mine its (here.trans there'.symm)
        exact same (on.symm.trans on')

theorem Taken.turn (taken : c.Taken) (sound : c.Sound) (turn : Turn c u) : u.Taken := by
  cases turn with
  | quiet same =>
    refine { taken with gone := fun k p found => ?_ }
    rw [same.queues] at found
    exact taken.gone k p found
  | created properties =>
    refine { taken with gone := fun k p found => ?_ }
    by_cases new : ⟨c.state.nextId⟩ = k
    · rw [new, Table.get?_insert_self] at found
      obtain rfl := Option.some.inj found
      exact fun e mem => absurd mem List.not_mem_nil
    · rw [Table.get?_insert_of_ne _ new] at found
      exact taken.gone k p found
  | @commissioned queue q there command wait live =>
    refine ⟨taken.once, fun e mem => ?_, fun k p found e mem => ?_⟩
    · obtain ⟨o, mine, same⟩ := taken.known e mem
      exact ⟨o, List.mem_append_left _ mine, same⟩
    · by_cases same : queue = k
      · rw [← same, submitted, Table.get?_modify_self, there] at found
        obtain rfl := Option.some.inj found
        rcases List.mem_append.1 mem with old | new
        · exact taken.gone queue q there e old
        · intro before
          obtain ⟨o, mine, here⟩ := taken.known e before
          have issued := sound.issued mine
          rw [here, List.mem_singleton.1 new] at issued
          exact Nat.lt_irrefl _ issued
      · rw [submitted, Table.get?_modify_of_ne _ same] at found
        exact taken.gone k p found e mem
  | returned live => exact ⟨taken.once, taken.known, taken.gone⟩
  | started found launch => exact taken.started sound found launch

theorem taken_of (history : List Happening) : (of history).Taken :=
  of_induction (fun _ _ sound _ taken turn => taken.turn sound turn) taken_start history

/-! ### The invariant -/

/-- A command was put into a queue before that was started, and ran on time. -/
structure Punctual (log : List (EventHandle × Execution)) (round : Round) (o : Commission)
    (x : Execution) : Prop where
  /-- It was put into the queue that was started. -/
  queue : o.queue = round.queue
  /-- It was put there before. -/
  queued : o.queued ≤ round.before.clock
  /-- It ran on time. -/
  onTime : OnTime log round.before.clock (round.before.costOf o.command) o.wait x
  /-- It takes some time. -/
  takes : 0 < round.before.costOf o.command
  /-- It began as soon as it might. -/
  prompt : ∃ q, round.before.queues.get? round.queue = some q ∧
    Prompt log o.wait (fun n => n = 0 ∨ (!q.properties.outOfOrder) = true ∧
      (n = q.lastEnd ∨ ∃ other ∈ round.runs, n = other.2.ended)) x

theorem Punctual.mono {log more : List (EventHandle × Execution)} {round : Round} {o : Commission}
    {x : Execution} (punctual : Punctual log round o x) (sub : log ⊆ more) :
    Punctual more round o x where
  queue := punctual.queue
  queued := punctual.queued
  onTime := punctual.onTime.mono sub
  takes := punctual.takes
  prompt := by
    obtain ⟨q, found, prompt⟩ := punctual.prompt
    exact ⟨q, found, prompt.mono sub fun _ h => h⟩

/-- Commands were put into queues one after the other, and those that were carried out ran on
time. -/
structure Clocked (c : Chronicle) : Prop where
  /-- Commands were put into queues before now. -/
  queued : ∀ o ∈ c.commissions, o.queued ≤ c.state.clock
  /-- Later commands have later numbers and instants. -/
  ordered : c.commissions.Pairwise fun a b => a.event.id < b.event.id ∧ a.queued < b.queued
  /-- The queues that were started are there and work as they did. -/
  working : ∀ round ∈ c.rounds, c.state.queues.contains round.queue = true ∧
    c.state.propertiesOf round.queue = round.before.propertiesOf round.queue
  /-- What was carried out ran on time. -/
  punctual : ∀ round ∈ c.rounds, ∀ run ∈ round.runs,
    ∃ o ∈ c.commissions, o.event = run.1 ∧ Punctual c.log round o run.2

theorem clocked_start : Clocked {} where
  queued _ mem := absurd mem List.not_mem_nil
  ordered := List.Pairwise.nil
  working _ mem := absurd mem List.not_mem_nil
  punctual _ mem := absurd mem List.not_mem_nil

/-- What a start carries out was put into its queue before, and runs on time. -/
theorem punctual_of_launch (sound : c.Sound) (faithful : c.Faithful)
    (queued : ∀ o ∈ c.commissions, o.queued ≤ c.state.clock) {queue : QueueHandle} {q : Queue}
    {outcome : EStateM.Result Status Simulator Unit} (found : c.state.queues.get? queue = some q)
    (launch : Launch c.state queue q (c.state.runsOf queue) outcome) {answered : Bool}
    {run : EventHandle × Execution} (mem : run ∈ c.state.runsOf queue) :
    ∃ o ∈ c.commissions, o.event = run.1 ∧
      Punctual (c.log ++ c.state.runsOf queue) ⟨c.state, queue, answered⟩ o run.2 := by
  obtain ⟨last, v, carried⟩ := launch.carried
  have logged : ∀ e x, (c.state.taken queue).execution? e = some x → (e, x) ∈ c.log :=
    fun e x ran => faithful.logged ran
  obtain ⟨r, there, onTime, prompt⟩ := carried.onTime logged mem
  obtain ⟨o, mine, same, tells⟩ := faithful.known run.1 r there
  obtain ⟨p, here, again, on⟩ := sound.pending found
    (launch.pending_prefix.subset (List.mem_map_of_mem mem))
  obtain rfl := sound.commission_unique here mine (again.trans same.symm)
  rw [tells.command, tells.wait] at onTime
  rw [tells.wait] at prompt
  exact ⟨p, here, again, on, queued p here, onTime, costOf_pos sound.takes p.command, q, found, prompt⟩

namespace Clocked

theorem turn (clocked : c.Clocked) (sound : c.Sound) (faithful : c.Faithful) (turn : Turn c u) :
    u.Clocked where
  queued o mem := by
    cases turn with
    | commissioned found command live =>
      rcases List.mem_append.1 mem with old | new
      · exact Nat.le_trans (clocked.queued o old) (Nat.le_add_right _ _)
      · rw [List.mem_singleton.1 new]
        exact Nat.le_refl _
    | quiet same => exact Nat.le_trans (clocked.queued o mem) (Nat.le_of_eq same.clock.symm)
    | created properties => exact clocked.queued o mem
    | returned live => exact clocked.queued o mem
    | started found launch => exact Nat.le_trans (clocked.queued o mem) launch.clock_le
  ordered := by
    cases turn with
    | commissioned found command live =>
      refine List.pairwise_append.2 ⟨clocked.ordered, List.pairwise_singleton _ _, ?_⟩
      intro a old b new
      rw [List.mem_singleton.1 new]
      exact ⟨sound.issued old, Nat.lt_succ_of_le (Nat.le_trans (clocked.queued a old)
        (Nat.le_add_right _ _))⟩
    | _ => exact clocked.ordered
  working round mem := by
    have old : round ∈ c.rounds → u.state.queues.contains round.queue = true ∧
        u.state.propertiesOf round.queue = round.before.propertiesOf round.queue := by
      intro old
      obtain ⟨present, worked⟩ := clocked.working round old
      obtain ⟨there, works⟩ := turn.works sound present
      exact ⟨there, works.trans worked⟩
    have later := turn
    cases turn with
    | @started queue q outcome found launch =>
      rcases List.mem_append.1 mem with before | new
      · exact old before
      · rw [List.mem_singleton.1 new]
        exact later.works sound (Table.contains_iff.2 ⟨q, found⟩)
    | _ => exact old mem
  punctual round mem run ran := by
    have old : round ∈ c.rounds →
        ∃ o ∈ u.commissions, o.event = run.1 ∧ Punctual u.log round o run.2 := by
      intro old
      obtain ⟨o, there, same, punctual⟩ := clocked.punctual round old run ran
      exact ⟨o, turn.commissions_subset there, same, punctual.mono turn.log_prefix.subset⟩
    cases turn with
    | started found launch =>
      rcases List.mem_append.1 mem with before | new
      · exact old before
      · rw [List.mem_singleton.1 new] at ran ⊢
        rw [log_append]
        exact punctual_of_launch sound faithful clocked.queued found launch ran
    | _ => exact old mem

end Clocked

/-- Commands run on time in every history. -/
theorem clocked_of (history : List Happening) : (of history).Clocked := by
  have both : (of history).Faithful ∧ (of history).Clocked :=
    of_induction (motive := fun c => c.Faithful ∧ c.Clocked)
      (fun c u sound later h turn =>
        ⟨h.1.turn sound later turn, h.2.turn sound h.1 turn⟩)
      ⟨faithful_start, clocked_start⟩ history
  exact both.2

/-- Whatever happens next, the clock does not go back, and what was carried out stays in the log as
it is. -/
theorem Sound.run_later (sound : c.Sound) (later : List Happening) :
    c.state.clock ≤ (c.run later).state.clock ∧ c.log <+: (c.run later).log :=
  (run_induction (motive := fun u => c.state.clock ≤ u.state.clock ∧ c.log <+: u.log)
    (fun _ _ _ _ h turn => ⟨Nat.le_trans h.1 turn.clock_le, h.2.trans turn.log_prefix⟩) sound
    ⟨Nat.le_refl _, List.prefix_refl _⟩ later).2

/-! ### Times that are words -/

/-- The time is a word, and so is when each command ended that was ever carried out. -/
structure InWords (c : Chronicle) : Prop where
  /-- The time is. -/
  clock : IsWord c.state.clock
  /-- So are the ends of commands. -/
  ended : ∀ run ∈ c.log, IsWord run.2.ended

instance : DecidablePred InWords := fun c =>
  decidable_of_iff (IsWord c.state.clock ∧ ∀ run ∈ c.log, IsWord run.2.ended)
    ⟨fun ⟨clock, ended⟩ => ⟨clock, ended⟩, fun words => ⟨words.clock, words.ended⟩⟩

/-- If they are words after all that happens then they have been all along. -/
theorem InWords.earlier {later : List Happening} (words : (c.run later).InWords) (sound : c.Sound) :
    c.InWords where
  clock := words.clock.of_le (sound.run_later later).1
  ended run mem := words.ended run ((sound.run_later later).2.subset mem)

/-! ### The law -/

/-- What is known of the instants of a command from its record: when it was put into its queue, and
all others or none. -/
def Dated (log : List (EventHandle × Execution)) (o : Commission) (r : EventRecord) : Prop :=
  r.instant? .queued = some o.queued ∧
    (o.event ∉ log.map (·.1) ∧ r.instant? .submitted = none ∧ r.instant? .started = none ∧
        r.instant? .ended = none ∨
      ∃ x, (o.event, x) ∈ log ∧ r.instant? .submitted = some x.submitted ∧
        r.instant? .started = some x.started ∧ r.instant? .ended = some x.ended)

theorem dated_of_tells {log : List (EventHandle × Execution)} {returned : List EventHandle}
    {o : Commission} {r : EventRecord} (tells : o.Tells log returned r) : Dated log o r := by
  refine ⟨congrArg some tells.queued, ?_⟩
  cases ran : r.execution with
  | none =>
    refine .inl ⟨fun mem => ?_, ?_, ?_, ?_⟩
    · obtain ⟨run, logged, same⟩ := List.mem_map.1 mem
      have known := (tells.execution run.2).2 (same ▸ logged)
      rw [ran] at known
      contradiction
    all_goals simp [EventRecord.instant?, ran]
  | some x =>
    refine .inr ⟨x, (tells.execution x).1 ran, ?_, ?_, ?_⟩
    all_goals simp [EventRecord.instant?, ran]

/-- What the instants of a command tell that a start has carried out. -/
structure Lawful (c : Chronicle) (round : Round) (o : Commission) (x : Execution) : Prop where
  /-- Its queue was started. -/
  queue : o.queue = round.queue
  /-- It was handed to the device then. -/
  handed : x.submitted = round.before.clock
  /-- It was put into the queue before. -/
  queued : o.queued ≤ x.submitted
  /-- It did not begin before it was handed to the device. -/
  submitted : x.submitted ≤ x.started
  /-- It ended after it began. -/
  started : x.started < x.ended
  /-- It took as long as the command costs. -/
  ended : x.ended = x.started + round.before.costOf o.command
  /-- Adding words comes to the same. -/
  added : addWords x.started (round.before.costOf o.command) = x.ended
  /-- It did not begin before all that it waits for had ended. -/
  awaited : ∀ w ∈ o.wait, ∃ y, (w, y) ∈ c.log ∧ y.ended ≤ x.started
  /-- Out of order it began at the last of these instants. -/
  outOfOrder : (c.state.propertiesOf o.queue).map (·.outOfOrder) = some true →
    IsGreatest ({x.submitted} ∪ {n | ∃ w ∈ o.wait, ∃ y, (w, y) ∈ c.log ∧ y.ended = n}) x.started

theorem Sound.logged_once (sound : c.Sound) {e : EventHandle} {x y : Execution}
    (first : (e, x) ∈ c.log) (second : (e, y) ∈ c.log) : x = y :=
  congrArg Prod.snd (List.inj_on_of_nodup_map sound.once first second rfl)

/-- A command that ran on time did so by the law. -/
theorem lawful_of_punctual (sound : c.Sound) {round : Round} {o : Commission} {x : Execution}
    (works : c.state.propertiesOf round.queue = round.before.propertiesOf round.queue)
    (punctual : Punctual c.log round o x) (word : IsWord x.ended) : Lawful c round o x := by
  have onTime := punctual.onTime
  have added : addWords x.started (round.before.costOf o.command) = x.ended := by
    rw [onTime.ended] at word ⊢
    exact addWords_of_isWord word
  refine ⟨punctual.queue, onTime.submitted, ?_, onTime.after, ?_, onTime.ended, added,
    onTime.awaited, ?_⟩
  · rw [onTime.submitted]
    exact punctual.queued
  · rw [onTime.ended]
    exact Nat.lt_add_of_pos_right punctual.takes
  · intro outOfOrder
    obtain ⟨q, found, prompt⟩ := punctual.prompt
    rw [punctual.queue, works, propertiesOf, found] at outOfOrder
    have order : q.properties.outOfOrder = true := by simpa using outOfOrder
    constructor
    · rcases prompt with now | awaited | zero | ⟨inOrder, -⟩
      · exact .inl now
      · exact .inr awaited
      · have after := onTime.after
        exact .inl (Nat.le_antisymm (by rw [zero]; exact Nat.zero_le _) after)
      · rw [order] at inOrder
        contradiction
    · rintro n (now | ⟨w, mem, y, logged, rfl⟩)
      · rw [now]
        exact onTime.after
      · obtain ⟨z, same, before⟩ := onTime.awaited w mem
        rwa [sound.logged_once logged same]

/-- Whatever has happened and whatever happens next, as long as times are words: the clock does not
go back; no command is taken from its queue twice, so none is carried out twice, and how it was
carried out is not changed any more, neither in the log nor in its record; records tell all instants
of an execution or none; and every command that was ever carried out ran by the law. -/
theorem timing_law (history later : List Happening) (words : (of (history ++ later)).InWords) :
    (of history).state.clock ≤ (of (history ++ later)).state.clock ∧
    (of history).taken.Nodup ∧ ((of history).log.map (·.1)).Nodup ∧
    (of history).log <+: (of (history ++ later)).log ∧
    (∀ e x, (of history).state.execution? e = some x →
      ∀ r, (of (history ++ later)).state.events.get? e = some r → r.execution = some x) ∧
    (∀ e r, (of history).state.events.get? e = some r →
      ∃ o ∈ (of history).commissions, o.event = e ∧ Dated (of history).log o r) ∧
    ∀ run ∈ (of history).log, ∃ round ∈ (of history).rounds, ∃ o ∈ (of history).commissions,
      run ∈ round.runs ∧ o.event = run.1 ∧ Lawful (of history) round o run.2 := by
  have sound := sound_of history
  have faithful := faithful_of history
  have clocked := clocked_of history
  obtain ⟨clock, grown⟩ := sound.run_later later
  rw [of_append] at words
  have before := words.earlier sound
  rw [← of_append] at clock grown
  refine ⟨clock, (taken_of history).once, sound.once, grown, fun e x ran r found => ?_,
    fun e r found => ?_, fun run mem => ?_⟩
  · obtain ⟨o, -, same, tells⟩ := (faithful_of (history ++ later)).known e r found
    exact (tells.execution x).2 (same ▸ grown.subset (faithful.logged ran))
  · obtain ⟨o, mine, same, tells⟩ := faithful.known e r found
    exact ⟨o, mine, same, dated_of_tells tells⟩
  · obtain ⟨round, started, ran⟩ := List.mem_flatMap.1 mem
    obtain ⟨o, mine, same, punctual⟩ := clocked.punctual round started run ran
    have works := (clocked.working round started).2
    exact ⟨round, started, o, mine, ran, same,
      lawful_of_punctual sound works punctual (before.ended run mem)⟩

/-- Two copies are carried out, the first without a record since its event was given back. The
second, event 5, begins when the first has ended. -/
theorem timing_law_copies :
    let history := copies ++ [.request (.flush ⟨2⟩)]
    let later : List Happening := [.request (.finish ⟨2⟩)]
    (of (history ++ later)).InWords ∧
    (of history).state.events.contains ⟨4⟩ = false ∧
    ((⟨5⟩, ⟨200, 1201, 2202⟩) : EventHandle × Execution) ∈ (of history).log ∧
    (of history).state.clock ≤ (of (history ++ later)).state.clock ∧
    ∃ round ∈ (of history).rounds, ∃ o ∈ (of history).commissions, o.event = ⟨5⟩ ∧
      Lawful (of history) round o ⟨200, 1201, 2202⟩ := by
  intro history later
  have words : (of (history ++ later)).InWords := by decide
  have ran : ((⟨5⟩, ⟨200, 1201, 2202⟩) : EventHandle × Execution) ∈ (of history).log := by decide
  obtain ⟨clock, -, -, -, -, -, law⟩ := timing_law history later words
  obtain ⟨round, started, o, mine, -, same, lawful⟩ := law _ ran
  exact ⟨words, by decide, ran, clock, round, started, o, mine, same, lawful⟩

end Chronicle

end FpgaHost
