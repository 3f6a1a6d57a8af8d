import FpgaHost.Proofs.Simulator.Costs
import FpgaHost.Proofs.Simulator.History

/-!
# What a start carries out, and when

A start carries out the pending commands of its queue one after the other (`CarriesOut`) until all
have run or one cannot. How each of them runs is decided by what it waits for and, on a queue that
works in order, by the end of the last command before it: it runs on time (`OnTime`) and begins as
soon as it may (`Prompt`). A log of executions is used to speak of the events that are awaited,
since their records need not outlast the start.

Main statements: `launch_runPending` and `launch_finish` (what a start of a queue comes to), and
`CarriesOut.onTime`.
-/

namespace FpgaHost.Simulator

open Call Steps

variable {s t u : Simulator} {queue : QueueHandle} {event : EventHandle}

/-! ### Logs -/

/-- A log tells which of the events that have a record have run, and how. -/
def Told (s : Simulator) (log : List (EventHandle × Execution)) : Prop :=
  ∀ e, s.events.contains e = true → ∀ x, s.execution? e = some x ↔ (e, x) ∈ log

/-- What becomes of a command that was started at an instant and takes some time. -/
structure OnTime (log : List (EventHandle × Execution)) (submitted cost : Nat)
    (wait : List EventHandle) (x : Execution) : Prop where
  /-- It was handed to the device when its queue was started. -/
  submitted : x.submitted = submitted
  /-- It began later, or right away. -/
  after : x.submitted ≤ x.started
  /-- It took its time. -/
  ended : x.ended = x.started + cost
  /-- What it waits for had ended before it began. -/
  awaited : ∀ w ∈ wait, ∃ y, (w, y) ∈ log ∧ y.ended ≤ x.started

/-- A command began when it was started, when the last event that it waits for ended, or at one of
some other instants. -/
def Prompt (log : List (EventHandle × Execution)) (wait : List EventHandle) (others : Nat → Prop)
    (x : Execution) : Prop :=
  x.started = x.submitted ∨ (∃ w ∈ wait, ∃ y, (w, y) ∈ log ∧ y.ended = x.started) ∨ others x.started

section
variable {log : List (EventHandle × Execution)} {submitted cost : Nat} {wait : List EventHandle}
  {x : Execution} {others : Nat → Prop}

theorem OnTime.mono {more : List (EventHandle × Execution)} (onTime : OnTime log submitted cost wait x)
    (sub : log ⊆ more) : OnTime more submitted cost wait x where
  submitted := onTime.submitted
  after := onTime.after
  ended := onTime.ended
  awaited w mem := by
    obtain ⟨y, ran, before⟩ := onTime.awaited w mem
    exact ⟨y, sub ran, before⟩

theorem Prompt.mono {more : List (EventHandle × Execution)} {further : Nat → Prop}
    (prompt : Prompt log wait others x) (sub : log ⊆ more) (weaker : ∀ n, others n → further n) :
    Prompt more wait further x := by
  rcases prompt with now | ⟨w, mem, y, ran, same⟩ | other
  · exact .inl now
  · exact .inr (.inl ⟨w, mem, y, sub ran, same⟩)
  · exact .inr (.inr (weaker _ other))

end

/-! ### One command -/

/-- What is ready is ready from the start, or since the last of the awaited events ended. -/
theorem attained_of_readyAt {start ready : Nat} {wait : List EventHandle}
    (found : s.readyAt start wait = some ready) :
    ready = start ∨ ∃ w ∈ wait, ∃ x, s.execution? w = some x ∧ x.ended = ready := by
  rw [readyAt] at found
  induction wait generalizing start with
  | nil =>
    cases found
    exact .inl rfl
  | cons w rest ih =>
    rw [List.foldlM_cons] at found
    obtain ⟨time, first, found⟩ := Option.bind_eq_some_iff.1 found
    obtain ⟨ended, known, rfl⟩ := Option.map_eq_some_iff.1 first
    obtain ⟨x, ran, rfl⟩ := Option.map_eq_some_iff.1 known
    rcases ih found with rfl | ⟨v, mem, y, ran', same⟩
    · rcases Nat.le_total start x.ended with later | sooner
      · exact .inr ⟨w, List.mem_cons_self, x, ran, (Nat.max_eq_right later).symm⟩
      · exact .inl (Nat.max_eq_left sooner)
    · exact .inr ⟨v, List.mem_cons_of_mem w mem, y, ran', same⟩

/-- The command of an event runs, started at an instant and not before another: how, and what that
leaves. -/
structure Ran (submitted earliest : Nat) (s : Simulator) (event : EventHandle) (r : EventRecord)
    (x : Execution) (u : Simulator) : Prop where
  /-- The record of the event. -/
  record : s.events.get? event = some r
  /-- The command is handed to the device. -/
  handed : x.submitted = submitted
  /-- It begins when it may. -/
  started : ∃ ready, s.readyAt submitted r.wait = some ready ∧ x.started = max ready earliest
  /-- It takes its time. -/
  ended : x.ended = x.started + s.costOf r.command
  /-- How it ran is noted. -/
  events : u.events = s.events.modify event fun r => { r with execution := some x }
  /-- Of the rest only what memories hold changes. -/
  advanced : Advanced s u
  /-- Commands cost what they have cost. -/
  costs : u.costOf = s.costOf

theorem ran_of_runEvent {submitted earliest ended : Nat} (sized : BufferTable.Sized s.buffers)
    (ran : runEvent submitted earliest event s = .ok ended u) :
    ∃ r x, Ran submitted earliest s event r x u ∧ x.ended = ended := by
  have advanced := advanced_runEvent submitted earliest event s
  rw [ran, stateOf_ok] at advanced
  rw [runEvent_eq] at ran
  cases found : s.events.get? event with
  | none => simp [found] at ran
  | some r =>
    cases ready : s.readyAt submitted r.wait with
    | none => simp [found, ready] at ran
    | some time =>
      have steady := steady_execute r.command s
      have costs := costOf_execute r.command s
      cases executed : execute r.command s with
      | error status v => simp [found, ready, executed] at ran
      | ok cost v =>
        simp only [found, ready, executed, EStateM.Result.ok.injEq, stateOf_ok] at ran steady costs
        obtain ⟨rfl, rfl⟩ := ran
        rw [cost_of_execute sized executed] at advanced ⊢
        refine ⟨r, ⟨submitted, max time earliest, max time earliest + s.costOf r.command⟩,
          ⟨found, rfl, ⟨time, ready, rfl⟩, rfl, ?_, advanced, costs⟩, rfl⟩
        rw [noted, steady.events]

namespace Ran

variable {submitted earliest : Nat} {r : EventRecord} {x : Execution}
  {log : List (EventHandle × Execution)}

theorem onTime (ran : Ran submitted earliest s event r x u)
    (told : ∀ e x, s.execution? e = some x → (e, x) ∈ log) :
    OnTime log submitted (s.costOf r.command) r.wait x := by
  obtain ⟨ready, found, started⟩ := ran.started
  obtain ⟨after, ended⟩ := ended_of_readyAt found
  refine ⟨ran.handed, ?_, ran.ended, fun w mem => ?_⟩
  · rw [ran.handed, started]
    exact Nat.le_trans after (Nat.le_max_left _ _)
  · obtain ⟨y, before, by_ready⟩ := ended w mem
    rw [started]
    exact ⟨y, told w y before, Nat.le_trans by_ready (Nat.le_max_left _ _)⟩

theorem prompt (ran : Ran submitted earliest s event r x u)
    (told : ∀ e x, s.execution? e = some x → (e, x) ∈ log) :
    Prompt log r.wait (· = earliest) x := by
  obtain ⟨ready, found, started⟩ := ran.started
  rcases Nat.le_total ready earliest with later | sooner
  · rw [Nat.max_eq_right later] at started
    exact .inr (.inr started)
  · rw [Nat.max_eq_left sooner] at started
    rcases attained_of_readyAt found with now | ⟨w, mem, y, before, same⟩
    · exact .inl (by rw [started, now, ran.handed])
    · exact .inr (.inl ⟨w, mem, y, told w y before, same.trans started.symm⟩)

theorem earliest_le (ran : Ran submitted earliest s event r x u) : earliest ≤ x.started := by
  obtain ⟨ready, -, started⟩ := ran.started
  rw [started]
  exact Nat.le_max_right _ _

/-- A command that runs is logged beside all others. -/
theorem told (ran : Ran submitted earliest s event r x u) (told : s.Told log)
    (new : event ∉ log.map (·.1)) : u.Told (log ++ [(event, x)]) := by
  intro e there y
  rw [ran.events, Table.contains_modify] at there
  by_cases same : event = e
  · subst same
    rw [execution?_noted ran.record ran.events, List.mem_append, List.mem_singleton]
    constructor
    · intro h
      rw [Option.some.inj h]
      exact .inr rfl
    · rintro (old | this)
      · exact absurd (List.mem_map_of_mem old) new
      · rw [(Prod.mk.inj this).2]
  · rw [execution?, ran.events, Table.get?_modify_of_ne _ same, ← execution?, told e there y,
      List.mem_append, List.mem_singleton]
    constructor
    · exact .inl
    · rintro (old | this)
      · exact old
      · exact absurd (Prod.mk.inj this).1.symm same

end Ran

/-! ### Commands one after the other -/

/-- Not before which instant the next command of a queue begins. -/
def earliestOf (inOrder : Bool) (lastEnd : Nat) : Nat := if inOrder then lastEnd else 0

/-- Commands are carried out one after the other: they lead from a state and the end of the last
command so far to others. -/
inductive CarriesOut (submitted : Nat) (inOrder : Bool) :
    Nat → Simulator → List (EventHandle × Execution) → Nat → Simulator → Prop
  /-- There is no more. -/
  | done (lastEnd : Nat) (s : Simulator) : CarriesOut submitted inOrder lastEnd s [] lastEnd s
  /-- One more is carried out, and then the others. -/
  | next {lastEnd last : Nat} {s u t : Simulator} {event : EventHandle} {r : EventRecord}
      {x : Execution} {rest : List (EventHandle × Execution)}
      (first : Ran submitted (earliestOf inOrder lastEnd) s event r x u)
      (others : CarriesOut submitted inOrder (max lastEnd x.ended) u rest last t) :
      CarriesOut submitted inOrder lastEnd s ((event, x) :: rest) last t

namespace CarriesOut

variable {submitted lastEnd last : Nat} {inOrder : Bool} {runs : List (EventHandle × Execution)}

theorem advanced (carried : CarriesOut submitted inOrder lastEnd s runs last t) : Advanced s t := by
  induction carried with
  | done lastEnd s => exact Advanced.refl s
  | next first others ih => exact first.advanced.trans ih

/-- A command that cannot run changes no more than those before it. -/
theorem advanced_stopped {earliest : Nat} {stuck : EventHandle} {status : Status}
    (carried : CarriesOut submitted inOrder lastEnd s runs last u)
    (stopped : runEvent submitted earliest stuck u = .error status t) : Advanced s t := by
  have advanced := advanced_runEvent submitted earliest stuck u
  rw [stopped, stateOf_error] at advanced
  exact carried.advanced.trans advanced

/-- The last command ends when the answer says: it is one of these, or all of them ended before. -/
theorem last_eq (carried : CarriesOut submitted inOrder lastEnd s runs last t) :
    lastEnd ≤ last ∧ (∀ run ∈ runs, run.2.ended ≤ last) ∧
      (last = lastEnd ∨ ∃ run ∈ runs, last = run.2.ended) := by
  induction carried with
  | done lastEnd s => exact ⟨Nat.le_refl _, fun run mem => absurd mem List.not_mem_nil, .inl rfl⟩
  | @next lastEnd last s u t event r x rest first others ih =>
    obtain ⟨later, by_last, attained⟩ := ih
    refine ⟨by omega, fun run mem => ?_, ?_⟩
    · rcases List.mem_cons.1 mem with rfl | mem
      · exact Nat.le_trans (Nat.le_max_right _ _) later
      · exact by_last run mem
    · rcases attained with same | ⟨run, mem, same⟩
      · rcases Nat.le_total lastEnd x.ended with later | sooner
        · exact .inr ⟨(event, x), List.mem_cons_self, by rw [same, Nat.max_eq_right later]⟩
        · exact .inl (by rw [same, Nat.max_eq_left sooner])
      · exact .inr ⟨run, List.mem_cons_of_mem _ mem, same⟩

/-- In order, each command begins when those before it have ended. -/
theorem serial (carried : CarriesOut submitted true lastEnd s runs last t) :
    (∀ run ∈ runs, lastEnd ≤ run.2.started) ∧
      runs.Pairwise fun a b => a.2.ended ≤ b.2.started := by
  generalize inOrder : true = order at carried
  induction carried with
  | done lastEnd s => exact ⟨fun run mem => absurd mem List.not_mem_nil, List.Pairwise.nil⟩
  | @next lastEnd last s u t event r x rest first others ih =>
    obtain ⟨from_last, pairwise⟩ := ih
    subst inOrder
    refine ⟨fun run mem => ?_, List.pairwise_cons.2 ⟨fun run mem => ?_, pairwise⟩⟩
    · rcases List.mem_cons.1 mem with rfl | mem
      · exact first.earliest_le
      · exact Nat.le_trans (Nat.le_max_left _ _) (from_last run mem)
    · exact Nat.le_trans (Nat.le_max_right _ _) (from_last run mem)

/-- Commands are logged as they are carried out. -/
theorem told {log : List (EventHandle × Execution)}
    (carried : CarriesOut submitted inOrder lastEnd s runs last t) (told : s.Told log)
    (once : ((log ++ runs).map (·.1)).Nodup) : t.Told (log ++ runs) := by
  induction carried generalizing log with
  | done lastEnd s =>
    rw [List.append_nil]
    exact told
  | @next lastEnd last s u t event r x rest first others ih =>
    rw [List.append_cons] at once ⊢
    refine ih (first.told told ?_) once
    rw [List.map_append, List.map_append, List.append_assoc, List.nodup_append] at once
    intro old
    exact once.2.2 event old event List.mem_cons_self rfl

/-- Every command that is carried out runs on time. In order it begins promptly when it is started,
when the last event that it waits for ends, or when the last command before it does; out of order it
does not look at other commands. -/
theorem onTime {log : List (EventHandle × Execution)}
    (carried : CarriesOut submitted inOrder lastEnd s runs last t)
    (logged : ∀ e x, s.execution? e = some x → (e, x) ∈ log) {run : EventHandle × Execution}
    (mem : run ∈ runs) :
    ∃ r, s.events.get? run.1 = some r ∧
      OnTime (log ++ runs) submitted (s.costOf r.command) r.wait run.2 ∧
      Prompt (log ++ runs) r.wait (fun n => n = 0 ∨ inOrder = true ∧
        (n = lastEnd ∨ ∃ other ∈ runs, n = other.2.ended)) run.2 := by
  induction carried generalizing log with
  | done lastEnd s => contradiction
  | @next lastEnd last s u t event r x rest first others ih =>
    rcases List.mem_cons.1 mem with rfl | mem
    · have earlier : log ⊆ log ++ (event, x) :: rest := fun _ => List.mem_append_left _
      refine ⟨r, first.record, (first.onTime logged).mono earlier,
        (first.prompt logged).mono earlier ?_⟩
      rintro n rfl
      rw [earliestOf]
      split
      next inOrder => exact .inr ⟨inOrder, .inl rfl⟩
      · exact .inl rfl
    · have later : ∀ e y, u.execution? e = some y → (e, y) ∈ log ++ [(event, x)] := by
        intro e y ran
        by_cases same : event = e
        · subst same
          rw [execution?_noted first.record first.events] at ran
          rw [Option.some.inj ran]
          exact List.mem_append_right _ List.mem_cons_self
        · rw [execution?, first.events, Table.get?_modify_of_ne _ same] at ran
          exact List.mem_append_left _ (logged e y ran)
      obtain ⟨q, found, onTime, prompt⟩ := ih later mem
      obtain ⟨p, before, same⟩ : ∃ p, s.events.get? run.1 = some p ∧ bare p = bare q := by
        have same := first.advanced.events run.1
        rw [found, Option.map_some] at same
        exact Option.map_eq_some_iff.1 same.symm
      simp only [bare, EventRecord.mk.injEq] at same
      rw [← List.append_cons, ← same.1, ← same.2.1, first.costs] at onTime
      rw [← List.append_cons, ← same.2.1] at prompt
      refine ⟨p, before, onTime, prompt.mono (List.Subset.refl _) ?_⟩
      rintro n (zero | ⟨inOrder, here | ⟨other, mem, here⟩⟩)
      · exact .inl zero
      · rcases Nat.le_total lastEnd x.ended with later | sooner
        · refine .inr ⟨inOrder, .inr ⟨(event, x), List.mem_cons_self, ?_⟩⟩
          rw [here, Nat.max_eq_right later]
        · exact .inr ⟨inOrder, .inl (by rw [here, Nat.max_eq_left sooner])⟩
      · exact .inr ⟨inOrder, .inr ⟨other, List.mem_cons_of_mem _ mem, here⟩⟩

end CarriesOut

/-- Commands that were carried out, as what a start comes to. -/
def completions (runs : List (EventHandle × Execution)) : List (EventHandle × Option Execution) :=
  runs.map fun run => (run.1, some run.2)

@[simp] theorem events_completions (runs : List (EventHandle × Execution)) :
    (completions runs).map (·.1) = runs.map (·.1) := by
  rw [completions, List.map_map]
  rfl

theorem mem_completions {runs : List (EventHandle × Execution)} {c : EventHandle × Option Execution}
    (mem : c ∈ completions runs) : ∃ x, c.2 = some x ∧ (c.1, x) ∈ runs := by
  obtain ⟨⟨event, x⟩, there, rfl⟩ := List.mem_map.1 mem
  exact ⟨x, rfl, there⟩

/-- Some of the first commands are carried out: all of them, or those before one that cannot run. -/
theorem carriesOut_runEvents (submitted : Nat) (inOrder : Bool) (lastEnd : Nat)
    (events : List EventHandle) (sized : BufferTable.Sized s.buffers) :
    ∃ runs last u, CarriesOut submitted inOrder lastEnd s runs last u ∧
      performed submitted inOrder lastEnd events s = completions runs ∧
      (runs.map (·.1) = events ∧ runEvents submitted inOrder lastEnd events s = .ok last u ∨
        ∃ stuck rest status t, events = runs.map (·.1) ++ stuck :: rest ∧
          runEvent submitted (earliestOf inOrder last) stuck u = .error status t ∧
          runEvents submitted inOrder lastEnd events s = .error status t) := by
  induction events generalizing lastEnd s with
  | nil => exact ⟨[], lastEnd, s, .done lastEnd s, rfl, .inl ⟨rfl, rfl⟩⟩
  | cons event rest ih =>
    rw [runEvents_cons, performed]
    cases first : runEvent submitted (if inOrder then lastEnd else 0) event s with
    | error status t =>
      exact ⟨[], lastEnd, s, .done lastEnd s, rfl, .inr ⟨event, rest, status, t, rfl, first, rfl⟩⟩
    | ok ended v =>
      obtain ⟨r, x, ran, rfl⟩ := ran_of_runEvent sized first
      obtain ⟨runs, last, u, carried, performed, outcome⟩ :=
        ih (max lastEnd x.ended) (ran.advanced.sized sized)
      refine ⟨(event, x) :: runs, last, u, .next ran carried, ?_, ?_⟩
      · dsimp only
        rw [execution?_noted ran.record ran.events, performed]
        rfl
      · rcases outcome with ⟨rfl, all⟩ | ⟨stuck, left, status, t, rfl, stopped, failed⟩
        · exact .inl ⟨rfl, all⟩
        · exact .inr ⟨stuck, left, status, t, rfl, stopped, failed⟩

/-! ### Starts -/

/-- The commands that the start of a queue carries out, and how they run. -/
def runsOf (s : Simulator) (queue : QueueHandle) : List (EventHandle × Execution) :=
  (s.startOf queue).filterMap fun c => c.2.map fun x => (c.1, x)

/-- What the start of a queue that is there comes to, if it carries out some commands. -/
inductive Launch (s : Simulator) (queue : QueueHandle) (q : Queue)
    (runs : List (EventHandle × Execution)) : EStateM.Result Status Simulator Unit → Prop
  /-- All that was pending is carried out. -/
  | succeeded {last : Nat} {u : Simulator}
      (carried : CarriesOut s.clock (!q.properties.outOfOrder) q.lastEnd (s.taken queue) runs last u)
      (all : runs.map (·.1) = q.pending) (clock : Nat) (later : s.clock ≤ clock) :
      Launch s queue q runs (.ok () { u.settled queue last with clock })
  /-- A command cannot run; it and those after it are dropped. -/
  | failed {last : Nat} {u t : Simulator} {stuck : EventHandle} {rest : List EventHandle}
      {status : Status}
      (carried : CarriesOut s.clock (!q.properties.outOfOrder) q.lastEnd (s.taken queue) runs last u)
      (pending : q.pending = runs.map (·.1) ++ stuck :: rest)
      (stopped : runEvent s.clock (earliestOf (!q.properties.outOfOrder) last) stuck u =
        .error status t) : Launch s queue q runs (.error status t)

theorem launch_runPending {q : Queue} (sized : BufferTable.Sized s.buffers)
    (found : s.queues.get? queue = some q) :
    Launch s queue q (s.runsOf queue) (runPending queue s) := by
  obtain ⟨runs, last, u, carried, performed, outcome⟩ := carriesOut_runEvents s.clock
    (!q.properties.outOfOrder) q.lastEnd q.pending (s := s.taken queue) sized
  have same : s.runsOf queue = runs := by
    rw [runsOf, startOf, found]
    simp only [performed, completions, List.filterMap_map, Function.comp_def, Option.map_some]
    exact List.filterMap_some
  rw [same, runPending_eq, found]
  rcases outcome with ⟨all, ran⟩ | ⟨stuck, rest, status, t, pending, stopped, ran⟩
  · simp only [ran]
    have clock : u.clock = s.clock := by
      rw [carried.advanced.rest]
      rfl
    exact .succeeded carried all u.clock (Nat.le_of_eq clock.symm)
  · simp only [ran]
    exact .failed carried pending stopped

theorem launch_finish {q : Queue} (sized : BufferTable.Sized s.buffers)
    (found : s.queues.get? queue = some q) :
    Launch s queue q (s.runsOf queue) (finish queue s) := by
  have launch := launch_runPending sized found
  rw [finish_eq]
  generalize runPending queue s = outcome at launch
  cases launch with
  | succeeded carried all clock later =>
    exact .succeeded carried all _ (Nat.le_trans later (Nat.le_max_left _ _))
  | failed carried pending stopped => exact .failed carried pending stopped

namespace Launch

variable {q : Queue} {runs : List (EventHandle × Execution)}
  {outcome : EStateM.Result Status Simulator Unit}

/-- A start does not turn the clock back. -/
theorem clock_le (launch : Launch s queue q runs outcome) : s.clock ≤ (stateOf outcome).clock := by
  cases launch with
  | succeeded carried all clock later => exact later
  | failed carried pending stopped =>
    rw [stateOf_error, (carried.advanced_stopped stopped).rest]
    exact Nat.le_refl _

/-- A start carries commands out, whatever it comes to. -/
theorem carried (launch : Launch s queue q runs outcome) : ∃ last u,
    CarriesOut s.clock (!q.properties.outOfOrder) q.lastEnd (s.taken queue) runs last u := by
  cases launch with
  | succeeded carried all clock later => exact ⟨_, _, carried⟩
  | failed carried pending stopped => exact ⟨_, _, carried⟩

/-- Whatever it comes to, nothing is left pending on its queue, and other queues stay as they
are. -/
theorem drained (launch : Launch s queue q runs outcome) (found : s.queues.get? queue = some q) :
    ∃ r, Drained s queue r (stateOf outcome) := by
  have taken := drained_taken found
  cases launch with
  | @succeeded last u carried all clock later =>
    exact ⟨_, ((taken.advanced carried.advanced).settled last).timed clock⟩
  | failed carried pending stopped => exact ⟨_, taken.advanced (carried.advanced_stopped stopped)⟩

/-- It carries out the first of those that were pending. -/
theorem pending_prefix (launch : Launch s queue q runs outcome) :
    runs.map (·.1) <+: q.pending := by
  cases launch with
  | succeeded carried all clock later => exact all ▸ List.prefix_refl _
  | failed carried pending stopped =>
    rw [pending]
    exact List.prefix_append _ _

end Launch

end FpgaHost.Simulator
