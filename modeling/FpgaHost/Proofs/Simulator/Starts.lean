import FpgaHost.Proofs.Simulator.Prospect
import FpgaHost.Proofs.Simulator.Records
import Mathlib.Data.List.Induction

/-!
# Which starts succeed

A start of a queue succeeds exactly if every pending command finds, when its turn comes, that all it
waits for has ended and that all buffers it copies are alive. What has ended by then is what had
ended before and what stands earlier in the list, so this can be read off the state before the start
(`Passes`). Otherwise the start stops at the first command of which this is not true, with a status
that tells what it lacks, an awaited event before a buffer (`Hindrance`). The commands before that
one have taken effect, and if a buffer is lacking so have the copies before it. No migration ever
finds that the two memories of a buffer differ in length.

Main statements: `Past.carried`, for the commands that are carried out, `Past.stuck`, for the one
that is not, and `Chronicle.start_exact`.
-/

namespace FpgaHost

open Steps

/-- The buffers that a command copies. -/
def Command.buffers : Command → List BufferHandle
  | .migrate buffers _ => buffers
  | .task _ => []

namespace Simulator

variable {s u v : Simulator} {queue : QueueHandle} {event e : EventHandle} {r : EventRecord}
  {done events : List EventHandle} {status : Status} {f : Memory → Memory}

/-! ### Commands that find what they need -/

/-- A command finds what it needs once some others have been carried out. -/
def MayRun (s : Simulator) (done : List EventHandle) (event : EventHandle) : Prop :=
  ∃ r, s.events.get? event = some r ∧ (∀ w ∈ r.wait, s.Ended w ∨ w ∈ done) ∧
    ∀ b ∈ r.command.buffers, s.buffers.contains b = true

/-- Each of some commands finds what it needs when its turn comes. -/
def Passes (s : Simulator) (events : List EventHandle) : Prop :=
  ∀ done e rest, events = done ++ e :: rest → s.MayRun done e

/-- What a command lacks once some others have been carried out: the status that tells it, and what
the command has done to the memory by then. -/
inductive Hindrance (s : Simulator) (done : List EventHandle) (r : EventRecord) :
    Status → (Memory → Memory) → Prop
  /-- An event that it waits for has not ended. -/
  | event {w : EventHandle} (awaited : w ∈ r.wait) (never : ¬ s.Ended w) (late : w ∉ done) :
      Hindrance s done r .invalidEvent id
  /-- A buffer is gone, and the buffers before it are copied. -/
  | buffer {copied left : List BufferHandle} {b : BufferHandle} {direction : Direction}
      (waits : ∀ w ∈ r.wait, s.Ended w ∨ w ∈ done)
      (command : r.command = .migrate (copied ++ b :: left) direction)
      (there : ∀ c ∈ copied, s.buffers.contains c = true) (gone : s.buffers.contains b = false) :
      Hindrance s done r .invalidMemObject (s.effect (.migrate copied direction))

/-- Some commands stop at the first that does not find what it needs. -/
structure StopsAfter (s : Simulator) (events done : List EventHandle) (status : Status)
    (f : Memory → Memory) : Prop where
  /-- Those before it find what they need. -/
  passes : s.Passes done
  /-- It does not. -/
  stops : ∃ e rest r, events = done ++ e :: rest ∧ s.events.get? e = some r ∧
    Hindrance s done r status f

theorem passes_concat : s.Passes (events ++ [e]) ↔ s.Passes events ∧ s.MayRun events e := by
  constructor
  · intro passes
    refine ⟨fun done d rest same => ?_, passes events e [] rfl⟩
    refine passes done d (rest ++ [e]) ?_
    rw [same, List.append_assoc, List.cons_append]
  · rintro ⟨passes, last⟩ done d rest same
    rcases List.eq_nil_or_concat rest with rfl | ⟨front, x, rfl⟩
    · obtain ⟨rfl, single⟩ := List.append_inj' same rfl
      cases single
      exact last
    · have longer : events ++ [e] = (done ++ d :: front) ++ [x] := by
        rw [same, List.append_assoc, List.cons_append, List.concat_eq_append]
      obtain ⟨shorter, -⟩ := List.append_inj' longer rfl
      exact passes done d front shorter

/-- The command that lacks something does not find what it needs. -/
theorem Hindrance.not_mayRun (hindrance : Hindrance s done r status f)
    (found : s.events.get? e = some r) : ¬ s.MayRun done e := by
  rintro ⟨q, there, waits, alive⟩
  obtain rfl := Option.some.inj (found.symm.trans there)
  cases hindrance with
  | event awaited never late => exact (waits _ awaited).elim never late
  | @buffer copied left b direction _ command _ gone =>
    have dead := alive b (by simp [command, Command.buffers])
    rw [gone] at dead
    contradiction

/-- A command lacks one thing first. -/
theorem Hindrance.unique {status' : Status} {f' : Memory → Memory}
    (hindrance : Hindrance s done r status f) (other : Hindrance s done r status' f') :
    status = status' := by
  cases hindrance with
  | event awaited never late =>
    cases other with
    | event _ _ _ => rfl
    | buffer waits _ _ _ => exact absurd (waits _ awaited) (not_or.2 ⟨never, late⟩)
  | buffer waits _ _ _ =>
    cases other with
    | event awaited never late => exact absurd (waits _ awaited) (not_or.2 ⟨never, late⟩)
    | buffer _ _ _ _ => rfl

/-- Nothing more is lacking once the queue is empty. -/
theorem Hindrance.taken (hindrance : Hindrance s done r status f) (queue : QueueHandle) :
    Hindrance (s.taken queue) done r status f := by
  cases hindrance with
  | event awaited never late => exact .event awaited never late
  | buffer waits command there gone => exact .buffer waits command there gone

/-- A command with a record finds what it needs or lacks something. -/
theorem mayRun_or_hindrance (found : s.events.get? e = some r) (done : List EventHandle) :
    s.MayRun done e ∨ ∃ status f, Hindrance s done r status f := by
  by_cases waits : ∀ w ∈ r.wait, s.Ended w ∨ w ∈ done
  · by_cases alive : ∀ b ∈ r.command.buffers, s.buffers.contains b = true
    · exact .inl ⟨r, found, waits, alive⟩
    · cases command : r.command with
      | task kernel => simp [command, Command.buffers] at alive
      | migrate buffers direction =>
        -- The first buffer that is gone parts the list.
        have dead : ∃ b ∈ buffers, (!s.buffers.contains b) = true := by
          simpa [command, Command.buffers] using alive
        obtain ⟨b, first⟩ := Option.isSome_iff_exists.1 (List.find?_isSome.2 dead)
        obtain ⟨gone, copied, left, rfl, there⟩ := List.find?_eq_some_iff_append.1 first
        refine .inr ⟨_, _, .buffer waits command (fun c mem => ?_) (by simpa using gone)⟩
        simpa using there c mem
  · push Not at waits
    obtain ⟨w, awaited, never, late⟩ := waits
    exact .inr ⟨_, _, .event awaited never late⟩

/-- Commands with records all find what they need, or they stop at the first that does not. -/
theorem passes_or_stops (records : ∀ e ∈ events, ∃ r, s.events.get? e = some r) :
    s.Passes events ∨ ∃ done status f, s.StopsAfter events done status f := by
  induction events using List.reverseRecOn with
  | nil =>
    refine .inl fun done e rest same => ?_
    simp at same
  | append_singleton front e ih =>
    rcases ih fun d mem => records d (List.mem_append_left _ mem) with
      passes | ⟨done, status, f, passes, d, rest, r, rfl, found, hindrance⟩
    · obtain ⟨r, found⟩ := records e (List.mem_append_right _ List.mem_cons_self)
      rcases mayRun_or_hindrance found front with free | ⟨status, f, hindrance⟩
      · exact .inl (passes_concat.2 ⟨passes, free⟩)
      · exact .inr ⟨front, status, f, passes, e, [], r, rfl, found, hindrance⟩
    · refine .inr ⟨done, status, f, passes, d, rest ++ [e], r, ?_, found, hindrance⟩
      rw [List.append_assoc, List.cons_append]

/-- Commands that stop do not all find what they need. -/
theorem StopsAfter.not_passes (stops : s.StopsAfter events done status f) : ¬ s.Passes events := by
  obtain ⟨e, rest, r, same, found, hindrance⟩ := stops.stops
  exact fun passes => hindrance.not_mayRun found (passes done e rest same)

/-- None of the commands before the one that stops could be the one. -/
theorem StopsAfter.eq_of_prefix {done' : List EventHandle} {status' : Status} {f' : Memory → Memory}
    (stops : s.StopsAfter events done status f) (other : s.StopsAfter events done' status' f')
    (shorter : done <+: done') : done = done' := by
  obtain ⟨e, rest, r, same, found, hindrance⟩ := stops.stops
  obtain ⟨e', rest', r', same', -⟩ := other.stops
  obtain ⟨more, rfl⟩ := shorter
  rw [same, List.append_assoc, List.append_cancel_left_eq] at same'
  cases more with
  | nil => rw [List.append_nil]
  | cons d more =>
    obtain ⟨rfl, -⟩ := List.cons.inj same'
    exact absurd (other.passes done e more rfl) (hindrance.not_mayRun found)

/-- Commands stop at one place, with one status. -/
theorem StopsAfter.unique {done' : List EventHandle} {status' : Status} {f' : Memory → Memory}
    (stops : s.StopsAfter events done status f) (other : s.StopsAfter events done' status' f') :
    status = status' := by
  have here : done = done' := by
    obtain ⟨e, rest, r, same, -⟩ := stops.stops
    obtain ⟨e', rest', r', same', -⟩ := other.stops
    have first : done <+: events := ⟨_, same.symm⟩
    have second : done' <+: events := ⟨_, same'.symm⟩
    rcases List.prefix_or_prefix_of_prefix first second with shorter | longer
    · exact stops.eq_of_prefix other shorter
    · exact (other.eq_of_prefix stops longer).symm
  subst here
  obtain ⟨e, rest, r, same, found, hindrance⟩ := stops.stops
  obtain ⟨e', rest', r', same', found', hindrance'⟩ := other.stops
  rw [same, List.append_cancel_left_eq] at same'
  obtain ⟨rfl, -⟩ := List.cons.inj same'
  obtain rfl := Option.some.inj (found.symm.trans found')
  exact hindrance.unique hindrance'

/-! ### Commands that are carried out -/

/-- The state after some commands have been carried out, as far as it matters to others. -/
structure Past (s : Simulator) (done : List EventHandle) (u : Simulator) : Prop where
  /-- Nothing else has changed. -/
  advanced : Advanced s u
  /-- What has ended are these commands and those that had ended before. -/
  ended : ∀ w, u.Ended w ↔ s.Ended w ∨ w ∈ done
  /-- They have taken effect. -/
  memory : u.memory = s.outcome done s.memory

theorem past_nil (s : Simulator) : Past s [] s :=
  ⟨Advanced.refl s, fun w => by simp, rfl⟩

/-- A command that finds what it needs is carried out, after all those before it. -/
theorem Past.next (past : Past s done u) (free : s.CanRun done event) (submitted earliest : Nat) :
    ∃ time v, runEvent submitted earliest event u = .ok time v ∧ Past s (done ++ [event]) v := by
  obtain ⟨r, found, ready, waits⟩ := free
  have undisturbed := undisturbed_of_advanced past.advanced
    (fun e ended => (past.ended e).2 (.inl ended)) [event]
  obtain ⟨q, there, command, wait⟩ := undisturbed.records event List.mem_cons_self r found
  have ended : ∀ w ∈ q.wait, u.Ended w := by
    intro w mem
    rw [wait] at mem
    exact (past.ended w).2 (waits w mem)
  obtain ⟨time, v, ran, memory, -⟩ := runEvent_of_ready submitted earliest there
    (command ▸ undisturbed.ready ready) ended
  have advanced := advanced_runEvent submitted earliest event u
  rw [ran, stateOf_ok] at advanced
  refine ⟨time, v, ran, past.advanced.trans advanced, fun w => ?_, ?_⟩
  · obtain ⟨-, x, -, events, -⟩ := runEvent_ok ran
    rw [List.mem_append, List.mem_singleton, ← or_assoc, ← past.ended, Ended, Ended]
    by_cases same : event = w
    · subst same
      simp [execution?_noted there events]
    · simp [execution?, events, Table.get?_modify_of_ne _ same, Ne.symm same]
  · have effect : u.effectOf u.memory event = s.effectOf u.memory event := by
      simp only [effectOf, found, there, command,
        effect_congr past.advanced.kernels past.advanced.hostKernels]
    rw [memory, effect, past.memory, outcome, outcome, List.foldl_append]
    rfl

/-- Commands that find what they need are carried out one after the other. -/
theorem Past.carried (past : Past s done u) (events : List EventHandle)
    (free : ∀ first e rest, events = first ++ e :: rest → s.CanRun (done ++ first) e)
    (submitted : Nat) (inOrder : Bool) (lastEnd : Nat) (more : List EventHandle) :
    ∃ last v, Past s (done ++ events) v ∧
      runEvents submitted inOrder lastEnd (events ++ more) u =
        runEvents submitted inOrder last more v ∧
      (performed submitted inOrder lastEnd (events ++ more) u).map (·.1) =
        events ++ (performed submitted inOrder last more v).map (·.1) := by
  induction events generalizing done lastEnd u with
  | nil => exact ⟨lastEnd, u, by rwa [List.append_nil], rfl, rfl⟩
  | cons event rest ih =>
    have first := free [] event rest rfl
    rw [List.append_nil] at first
    obtain ⟨time, v, ran, later⟩ := past.next first submitted (if inOrder then lastEnd else 0)
    obtain ⟨last, t, all, runs, names⟩ := ih later (fun front e after same => by
      have next := free (event :: front) e after (by rw [same, List.cons_append])
      rwa [List.append_cons] at next) (max lastEnd time)
    rw [← List.append_cons] at all
    refine ⟨last, t, all, ?_, ?_⟩
    · rw [List.cons_append, runEvents_cons, ran]
      exact runs
    · rw [List.cons_append, performed, ran]
      exact congrArg (event :: ·) names

/-! ### The command that is not -/

/-- A migration stops at the first buffer that is gone, after it has copied those before it. -/
theorem migrate_stuck {copied : List BufferHandle} {b : BufferHandle} (direction : Direction)
    (moved : Nat) (left : List BufferHandle)
    (there : ∀ c ∈ copied, s.buffers.contains c = true) (gone : s.buffers.contains b = false) :
    ∃ t, migrate direction moved (copied ++ b :: left) s = .error .invalidMemObject t ∧
      t.memory = s.effect (.migrate copied direction) s.memory ∧ t.events = s.events := by
  induction copied generalizing moved s with
  | nil =>
    refine ⟨s, ?_, rfl, rfl⟩
    rw [List.nil_append, migrate_cons, Table.contains_eq_false_iff.1 gone]
  | cons c rest ih =>
    obtain ⟨buffer, found⟩ := Table.contains_iff.1 (there c List.mem_cons_self)
    obtain ⟨t, failed, memory, events⟩ := ih (s := { s with
        buffers := s.buffers.modify c (·.migrate direction) }) (addWords moved buffer.host.size)
      (fun d mem => by
        rw [Table.contains_modify]
        exact there d (List.mem_cons_of_mem c mem))
      (by rw [Table.contains_modify, gone])
    refine ⟨t, ?_, memory, events⟩
    rw [List.cons_append, migrate_cons, found]
    exact failed

/-- A command that lacks something stops with the status that tells it. -/
theorem Past.stuck (past : Past s done u) (found : s.events.get? event = some r)
    (hindrance : Hindrance s done r status f) (submitted earliest : Nat) :
    ∃ v, runEvent submitted earliest event u = .error status v ∧ v.memory = f u.memory ∧
      v.events = u.events := by
  have undisturbed := undisturbed_of_advanced past.advanced
    (fun e ended => (past.ended e).2 (.inl ended)) [event]
  obtain ⟨q, there, command, wait⟩ := undisturbed.records event List.mem_cons_self r found
  rw [runEvent_eq, there]
  cases hindrance with
  | @event w awaited never late =>
    have lacking : u.readyAt submitted q.wait = none := by
      rw [Option.eq_none_iff_forall_ne_some]
      intro ready known
      obtain ⟨x, ran, -⟩ := (ended_of_readyAt known).2 w (wait ▸ awaited)
      have ended : u.Ended w := by rw [Ended, ran, Option.isSome_some]
      exact ((past.ended w).1 ended).elim never late
    exact ⟨u, by simp only [lacking], rfl, rfl⟩
  | @buffer copied left b direction waits migrates alive gone =>
    have ended : ∀ w ∈ q.wait, u.Ended w := fun w mem =>
      (past.ended w).2 (waits w (wait ▸ mem))
    obtain ⟨time, ready⟩ := readyAt_of_ended submitted ended
    obtain ⟨v, failed, memory, events⟩ := migrate_stuck (s := u) direction 0 left
      (fun c mem => by rw [past.advanced.buffers, alive c mem])
      (by rw [past.advanced.buffers, gone])
    refine ⟨v, ?_, memory, events⟩
    have executed : execute q.command u = .error .invalidMemObject v := by
      rw [command, migrates]
      exact failed
    simp only [ready, executed]

/-! ### Starts -/

/-- What the start of a queue comes to. -/
inductive Started (s : Simulator) (queue : QueueHandle) :
    EStateM.Result Status Simulator Unit → Prop
  /-- There is no such queue, and nothing changes. -/
  | unknown (absent : s.queues.contains queue = false) : Started s queue (.error .invalidValue s)
  /-- All that was pending is carried out and has taken effect. -/
  | succeeded {t : Simulator} (present : s.queues.contains queue = true)
      (passes : s.Passes (s.pendingOf queue))
      (runs : (s.runsOf queue).map (·.1) = s.pendingOf queue)
      (ended : ∀ e ∈ s.pendingOf queue, t.events.contains e = true → t.Ended e)
      (memory : t.memory = s.outcome (s.pendingOf queue) s.memory) : Started s queue (.ok () t)
  /-- What was pending before a command that lacks something is carried out and has taken effect. -/
  | stopped {done : List EventHandle} {status : Status} {f : Memory → Memory} {t : Simulator}
      (present : s.queues.contains queue = true)
      (stops : s.StopsAfter (s.pendingOf queue) done status f)
      (runs : (s.runsOf queue).map (·.1) = done) (ended : ∀ e ∈ done, t.Ended e)
      (memory : t.memory = f (s.outcome done s.memory)) : Started s queue (.error status t)

theorem events_runsOf {q : Queue} (sized : BufferTable.Sized s.buffers)
    (found : s.queues.get? queue = some q) :
    (s.runsOf queue).map (·.1) = (performed s.clock (!q.properties.outOfOrder) q.lastEnd q.pending
      (s.taken queue)).map (·.1) := by
  obtain ⟨runs, last, u, -, same, -⟩ := carriesOut_runEvents s.clock (!q.properties.outOfOrder)
    q.lastEnd q.pending (s := s.taken queue) sized
  simp [runsOf, startOf, found, same, completions, List.filterMap_map, Function.comp_def]

/-- The kernels of commands that have a record are there. -/
def KernelsThere (s : Simulator) : Prop :=
  ∀ e r kernel, s.events.get? e = some r → r.command = .task kernel →
    s.kernels.contains kernel = true

/-- A command that finds what it needs can run. -/
theorem MayRun.canRun (free : s.MayRun done e) (kernels : s.KernelsThere) : s.CanRun done e := by
  obtain ⟨r, found, waits, alive⟩ := free
  refine ⟨r, found, ?_, waits⟩
  cases command : r.command with
  | migrate buffers direction =>
    rw [command] at alive
    exact alive
  | task kernel => exact kernels e r kernel found command

/-- What has ended has ended also after a collection, as long as its record is there. -/
theorem ended_of_collected (ended : s.Ended e) (kept : s.collectReleased.events.contains e = true) :
    s.collectReleased.Ended e := by
  obtain ⟨r, found⟩ := Table.contains_iff.1 kept
  have before := found
  rw [get?_collectReleased] at before
  rw [Ended, execution?, (Option.filter_eq_some_iff.1 before).1] at ended
  rwa [Ended, execution?, found]

/-- A start of a queue comes to one of these. -/
theorem started_runPending (sized : BufferTable.Sized s.buffers) (kernels : s.KernelsThere)
    (records : ∀ e ∈ s.pendingOf queue, ∃ r, s.events.get? e = some r) :
    Started s queue (runPending queue s) := by
  cases found : s.queues.get? queue with
  | none =>
    rw [runPending_eq, found]
    exact .unknown (Table.contains_eq_false_iff.2 found)
  | some q =>
    have present : s.queues.contains queue = true := Table.contains_iff.2 ⟨q, found⟩
    have pending : s.pendingOf queue = q.pending := by rw [pendingOf, found]
    have names := events_runsOf sized found
    have start := past_nil (s.taken queue)
    rw [← pending] at names
    rw [runPending_eq, found]
    dsimp only
    rw [← pending]
    rcases passes_or_stops records with passes | ⟨done, status, f, stops⟩
    · obtain ⟨last, u, past, ran, those⟩ := start.carried (s.pendingOf queue)
        (fun first e rest same => (passes first e rest same).canRun kernels) s.clock
        (!q.properties.outOfOrder) q.lastEnd []
      rw [List.append_nil] at ran those
      rw [ran]
      refine .succeeded present passes ?_ (fun e mem kept => ?_) past.memory
      · rw [names, those, performed, List.map_nil, List.append_nil]
      · exact ended_of_collected ((past.ended e).2 (.inr mem)) kept
    · obtain ⟨e, rest, r, same, record, hindrance⟩ := stops.stops
      obtain ⟨last, u, past, ran, those⟩ := start.carried done
        (fun first e rest same => (stops.passes first e rest same).canRun kernels) s.clock
        (!q.properties.outOfOrder) q.lastEnd (e :: rest)
      obtain ⟨v, failed, memory, events⟩ := past.stuck record (hindrance.taken queue) s.clock
        (if !q.properties.outOfOrder then last else 0)
      rw [← same] at ran those
      rw [ran, runEvents_cons, failed]
      refine .stopped present stops ?_ (fun d mem => ?_) (memory.trans (congrArg f past.memory))
      · rw [names, those, performed, failed, List.map_nil, List.append_nil]
      · rw [Ended, execution?, events]
        exact (past.ended d).2 (.inr mem)

/-- A finish starts its queue and waits, which changes nothing but the clock. -/
theorem started_finish (started : Started s queue (runPending queue s)) :
    Started s queue (finish queue s) := by
  rw [finish_eq]
  cases ran : runPending queue s with
  | error status t =>
    rw [ran] at started
    exact started
  | ok _ t =>
    rw [ran] at started
    cases started with
    | succeeded present passes runs ended memory =>
      exact .succeeded present passes runs ended memory

/-- A start of a queue that succeeds and fails exactly when it should. -/
structure StartsExactly (s : Simulator) (queue : QueueHandle) (start : Call Simulator Unit) :
    Prop where
  /-- What it comes to. -/
  started : Started s queue (start s)
  /-- It succeeds if the queue is there and every pending command finds what it needs. -/
  ok_iff : (∃ t, start s = .ok () t) ↔
    s.queues.contains queue = true ∧ s.Passes (s.pendingOf queue)
  /-- Otherwise it fails, as there is no such queue or as the first command that does not find what
  it needs tells. -/
  error_iff : ∀ status, (∃ t, start s = .error status t) ↔
    s.queues.contains queue = false ∧ status = .invalidValue ∨
      s.queues.contains queue = true ∧ ∃ done f, s.StopsAfter (s.pendingOf queue) done status f

/-- What a start comes to says when it succeeds and when it fails. -/
theorem Started.exactly (start : Call Simulator Unit) (started : Started s queue (start s)) :
    StartsExactly s queue start := by
  refine ⟨started, ?_, fun status => ?_⟩
  · generalize start s = outcome at started
    cases started with
    | unknown absent => simp [absent]
    | succeeded present passes runs ended memory => exact iff_of_true ⟨_, rfl⟩ ⟨present, passes⟩
    | stopped present stops runs ended memory =>
      refine iff_of_false ?_ fun h => stops.not_passes h.2
      rintro ⟨t, ⟨⟩⟩
  · generalize start s = outcome at started
    cases started with
    | unknown absent =>
      constructor
      · rintro ⟨t, ⟨⟩⟩
        exact .inl ⟨absent, rfl⟩
      · rintro (⟨-, rfl⟩ | ⟨present, -⟩)
        · exact ⟨s, rfl⟩
        · rw [absent] at present
          contradiction
    | succeeded present passes runs ended memory =>
      constructor
      · rintro ⟨t, ⟨⟩⟩
      · rintro (⟨absent, -⟩ | ⟨-, done, f, stops⟩)
        · rw [present] at absent
          contradiction
        · exact absurd passes stops.not_passes
    | stopped present stops runs ended memory =>
      constructor
      · rintro ⟨t, ⟨⟩⟩
        exact .inr ⟨present, _, _, stops⟩
      · rintro (⟨absent, -⟩ | ⟨-, done, f, others⟩)
        · rw [present] at absent
          contradiction
        · rw [others.unique stops]
          exact ⟨_, rfl⟩

/-! ### Copies -/

/-- In a start of a queue the memories of a buffer are copied: some commands have been carried out,
the next one is a migration, it has copied the buffers before, and this is what the buffer is
now. -/
inductive Copies (s : Simulator) (queue : QueueHandle) : Buffer → Prop
  | copy {q : Queue} {done rest : List EventHandle} {e : EventHandle} {last cost : Nat}
      {u v : Simulator} {r : EventRecord} {copied left : List BufferHandle} {b : BufferHandle}
      {direction : Direction} {buffer : Buffer} (there : s.queues.get? queue = some q)
      (pending : q.pending = done ++ e :: rest)
      (ran : runEvents s.clock (!q.properties.outOfOrder) q.lastEnd done (s.taken queue) =
        .ok last u)
      (found : u.events.get? e = some r)
      (command : r.command = .migrate (copied ++ b :: left) direction)
      (before : migrate direction 0 copied u = .ok cost v)
      (here : v.buffers.get? b = some buffer) : Copies s queue buffer

/-- The memories of a buffer that is copied have the same length. -/
theorem Copies.same_size {buffer : Buffer} (copies : Copies s queue buffer)
    (sized : BufferTable.Sized s.buffers) : buffer.host.size = buffer.device.size := by
  cases copies with
  | @copy q done _ _ _ _ u _ _ copied _ b direction _ _ _ ran _ _ before here =>
    have carried := advanced_runEvents s.clock (!q.properties.outOfOrder) q.lastEnd done
      (s.taken queue)
    rw [ran, stateOf_ok] at carried
    have copying := steady_migrate direction copied 0 u
    rw [before, stateOf_ok] at copying
    have now := copying.sized (carried.sized sized) b buffer here
    rw [now.host, now.device]

end Simulator

open Simulator

namespace Chronicle

/-! ### Histories -/

theorem command_of_commissionedAs {queue : QueueHandle} {command : Command}
    {wait : List EventHandle} {outcome : EStateM.Result Status Simulator EventHandle}
    {o : Commission} (mem : o ∈ commissionedAs queue command wait outcome) :
    o.command = command := by
  cases outcome with
  | ok event t =>
    rw [List.mem_singleton.1 mem]
  | error status t => contradiction

/-- A command that runs a kernel was accepted when the kernel was there, and kernels stay. -/
theorem kernel_of_task (history : List Happening) :
    ∀ o ∈ (of history).commissions, ∀ kernel, o.command = .task kernel →
      (of history).state.kernels.contains kernel = true := by
  induction history using List.reverseRecOn with
  | nil => exact fun o mem => absurd mem List.not_mem_nil
  | append_singleton before happening ih =>
    intro o mem kernel task
    have next : of (before ++ [happening]) = (of before).next happening := of_append before _
    rw [next] at mem ⊢
    cases happening with
    | platform vendor devices => exact ih o mem kernel task
    | kernelTime time => exact ih o mem kernel task
    | bandwidth bytes => exact ih o mem kernel task
    | hostKernel name program => exact ih o mem kernel task
    | request r =>
      have retains := (sound_of before).reachable.numbered.retains (does_next (of before).state r)
      refine retains.hasKernel ?_
      rcases List.mem_append.1 mem with old | new
      · exact ih o old kernel task
      · cases r with
        | enqueueMigrate queue buffers direction wait =>
          rw [command_of_commissionedAs new] at task
          contradiction
        | enqueueTask queue k wait =>
          have named := (command_of_commissionedAs new).symm.trans task
          cases named
          simp only [commissionedBy, enqueueTask_eq] at new
          cases there : (of before).state.kernels.contains kernel with
          | true => rfl
          | false =>
            rw [there] at new
            contradiction
        | _ => contradiction

/-- Whatever has happened: a start of a queue, by a flush or by a finish, succeeds exactly if the
queue is there and every pending command finds, when its turn comes, that all it waits for has ended
and that all buffers it copies are alive. Otherwise the status tells that there is no such queue, or
what the first command lacks that does not; and the commands before that one have taken effect. No
migration copies between memories of different lengths. -/
theorem start_exact (history : List Happening) (queue : QueueHandle) :
    StartsExactly (of history).state queue (ComputeApi.call (.flush queue)) ∧
      StartsExactly (of history).state queue (ComputeApi.call (.finish queue)) ∧
      ∀ buffer, (of history).state.Copies queue buffer →
        buffer.host.size = buffer.device.size := by
  have faithful := faithful_of history
  have sized := (sound_of history).reachable.sized
  have kernels : (of history).state.KernelsThere := by
    intro e r kernel found task
    obtain ⟨o, mem, -, tells⟩ := faithful.known e r found
    exact kernel_of_task history o mem kernel (tells.command.symm.trans task)
  have records : ∀ e ∈ (of history).state.pendingOf queue,
      ∃ r, (of history).state.events.get? e = some r := fun e pending =>
    Table.contains_iff.1 (faithful.needed e (mem_pinned pending (mem_needs_self _ e)))
  have started := started_runPending sized kernels records
  exact ⟨Started.exactly (ComputeApi.call (.flush queue)) started,
    Started.exactly (ComputeApi.call (.finish queue)) (started_finish started),
    fun buffer copies => copies.same_size sized⟩

end Chronicle

end FpgaHost
