import FpgaHost.Proofs.Session.Accounts
import FpgaHost.Proofs.Session.Bills
import FpgaHost.Proofs.Simulator.Relay
import FpgaHost.Proofs.Simulator.Words
import Mathlib.Algebra.Order.Floor.Div

/-!
# How long a cycle takes

Between the operations of a session its queue is free: whatever ran on it has ended, also if a
finish has failed half way (`Reachable.free`). So the commands of a cycle that is begun with nothing
pending run without a gap from when the queue is started: the span of the cycle is the sum of its
stages, in order or not (`invoke_time`), and of the first cycle of a session each stage takes what
its command costs when the cycle begins (`elapsed_of_invoke`).

Main statement: `stages_and_cycles_add_up`.
-/

namespace FpgaHost

open Steps Attempt

/-! ### Queues that are free -/

namespace Simulator

variable {s t : Simulator} {queue : QueueHandle} {r : Request}

/-- What ran on a queue has ended. -/
def Free (s : Simulator) (queue : QueueHandle) : Prop :=
  ∀ q, s.queues.get? queue = some q → q.lastEnd ≤ s.clock

theorem Free.next (free : s.Free queue) (none : r.queue? = none) : (s.next r).Free queue := by
  by_cases quiet : r.isQuiet
  · have does := does_next s r
    generalize s.next r = t at does
    cases does with
    | createQueue context device properties => contradiction
    | submit loud queue profiling command wait => simp [quiet] at loud
    | stop loud queue advanced => simp [quiet] at loud
    | start loud queue advanced lastEnd clock => simp [quiet] at loud
    | _ => exact free
  · cases r with
    | createQueue context device properties =>
      simp only [Simulator.next, ComputeApi.call, createQueue_eq]
      split
      · exact free
      · intro q found
        rw [stateOf_ok, Table.get?_insert] at found
        split at found
        · rw [← Option.some.inj found]
          exact Nat.zero_le _
        · exact free q found
    | enqueueMigrate queue buffers direction wait => contradiction
    | enqueueTask queue kernel wait => contradiction
    | flush queue => contradiction
    | finish queue => contradiction
    | _ => exact absurd rfl quiet

theorem Free.submitted (free : s.Free queue) (other : QueueHandle) (profiling : Bool)
    (command : Command) (wait : List EventHandle) :
    (s.submitted other profiling command wait).Free queue := by
  intro q found
  have later : s.clock ≤ (s.submitted other profiling command wait).clock := Nat.le_add_right _ _
  rw [Simulator.submitted, Table.get?_modify] at found
  split at found
  · obtain ⟨p, there, rfl⟩ := Option.map_eq_some_iff.1 found
    exact Nat.le_trans (free p there) later
  · exact Nat.le_trans (free q found) later

/-- A start that fails leaves the time of the last command that was carried out before. -/
theorem Free.of_refused {status : Status} (free : s.Free queue)
    (failed : runPending queue s = .error status t) : t.Free queue := by
  have start := start_runPending s queue
  rw [failed] at start
  cases start with
  | unknown missing => exact free
  | @failed q u stuck rest status found advanced pending recorded =>
    intro p there
    rw [((drained_taken found).advanced advanced).here] at there
    rw [← Option.some.inj there, advanced.rest]
    exact free q found

/-- After a start that succeeds the wait for the queue succeeds. -/
theorem finish_of_started (started : runPending queue s = .ok () t) :
    ∃ u, finish queue t = .ok () u := by
  have start := start_runPending s queue
  rw [started] at start
  cases start with
  | succeeded lastEnd clock found advanced all later ended =>
    have drained := (((drained_taken found).advanced advanced).settled lastEnd).timed clock
    exact ⟨_, finish_of_idle drained.here rfl⟩

end Simulator

/-- A finish leaves the queue free, whether it succeeds or fails half way. -/
theorem Pipeline.preserves_free (queue : QueueHandle) :
    Preserves (fun pb : Pipeline × Simulator => pb.2.Free queue) (Pipeline.finish queue) := by
  rintro ⟨p, s⟩ free
  rw [Pipeline.finish_apply]
  cases flushed : Simulator.runPending queue s with
  | error status t => exact free.of_refused flushed
  | ok _ t =>
    obtain ⟨u, waited⟩ := Simulator.finish_of_started flushed
    dsimp only
    rw [waited]
    exact fun q found => Trace.lastEnd_le_clock waited found

namespace Session

variable {s t : Session Simulator} {stage : Stage}

theorem preserves_free_step (step : Step) :
    Preserves (fun v : Session Simulator => v.Sound ∧ v.backend.Free v.device.queue)
      step.operation.perform := by
  rintro v ⟨sound, free⟩
  refine ⟨preserves_step step v sound, ?_⟩
  cases step with
  | finish =>
    have kept := Pipeline.preserves_free v.device.queue (v.pipeline, v.backend) free
    rw [perform_step, onPipeline, stateOf_within]
    exact kept
  | submit stage =>
    rcases sound.submit_cases stage with same | entered
    · rwa [same]
    · generalize stateOf ((Step.submit stage).operation.perform v) = w at entered
      have cleared {b : Simulator} (clears : Pipeline.Clears stage v.backend b) :
          b.Free v.device.queue := by
        rw [clears.gaveBack.rest]
        exact free
      cases entered with
      | skipped clears moves bytes => exact cleared clears
      | accepted clears found => exact (cleared clears).submitted _ _ _ _

/-- Between operations the queue of a session is free. -/
theorem preserves_free (operation : Operation) :
    Preserves (fun v : Session Simulator => v.Sound ∧ v.backend.Free v.device.queue)
      operation.perform := by
  refine preserves_operation ?_ operation (fun request _ => ?_) preserves_free_step
  · rintro r plain v ⟨sound, free⟩
    obtain ⟨events, buffers⟩ := Request.gives_nothing_back plain
    exact ⟨sound.next events buffers, free.next (Request.queue?_of_isPlain plain)⟩
  · rintro v ⟨sound, free⟩
    refine ⟨Preserves.of_discard (preserves_perform (.createBuffer request)) v sound, ?_⟩
    exact preserves_createBuffer
      (P := fun v : Session Simulator => v.backend.Free v.device.queue)
      (fun _ _ none free => free.next none) (fun _ _ free => free) request v free

theorem Reachable.free (reachable : s.Reachable) : s.backend.Free s.device.queue := by
  induction reachable with
  | start reachable started =>
    intro q found
    rw [(made_of_start started).1.queue] at found
    rw [← Option.some.inj found]
    exact Nat.zero_le _
  | perform reachable operation free =>
    exact (preserves_free operation _ ⟨sound_of_reachable reachable, free⟩).2

end Session

/-! ### What is measured of a cycle -/

/-- When a stage began and ended. -/
def Timestamps.span (t : Timestamps) : Nat × Nat := (t.started, t.ended)

namespace CycleMetrics

/-- The times of the stages that were not skipped. -/
def times (m : CycleMetrics) : List Timestamps := m.stages.filterMap (·.times)

/-- A cycle whose stages follow one another lasts as long as its stages together. -/
theorem span_of_relay {m : CycleMetrics} {start stop : Nat} (ran : m.times ≠ [])
    (relay : Relay start (m.times.map (·.span)) stop) :
    m.span = m.load.elapsed + m.compute.elapsed + m.store.elapsed ∧ stop = start + m.span := by
  have nonempty : m.times.map (·.span) ≠ [] := mt List.map_eq_nil_iff.1 ran
  have first := relay.min?_eq nonempty
  have last := relay.max?_eq nonempty
  have total := relay.stop_eq
  rw [List.map_map] at first last total
  have span : m.span = stop - start := by
    rw [CycleMetrics.span]
    have began : ((m.stages.filterMap (·.times)).map (·.started)).min? = some start := first
    have ended : ((m.stages.filterMap (·.times)).map (·.ended)).max? = some stop := last
    simp only [began, ended]
  have sum : (m.times.map ((fun span : Nat × Nat => span.2 - span.1) ∘
      (·.span))).sum =
      m.load.elapsed + m.compute.elapsed + m.store.elapsed := by
    obtain ⟨⟨_, _, load⟩, ⟨_, _, compute⟩, ⟨_, _, store⟩⟩ := m
    cases load <;> cases compute <;> cases store <;>
      simp [times, stages, StageMetrics.elapsed, Timestamps.elapsed, Timestamps.span, Nat.add_assoc]
  omega

end CycleMetrics

namespace Pipeline

variable {p : Pipeline} {s t : Simulator} {m : CycleMetrics}

/-- A finish that succeeds starts the queue and waits for it. -/
theorem finish_parts {queue : QueueHandle} {q : Pipeline}
    (finished : finish queue (p, s) = .ok () (q, t)) :
    ∃ u, Simulator.runPending queue s = .ok () u ∧ Simulator.finish queue u = .ok () t ∧
      q = { p with state := p.state.finished } := by
  rw [finish_apply] at finished
  cases flushed : Simulator.runPending queue s with
  | error status u => simp [flushed] at finished
  | ok _ u =>
    cases waited : Simulator.finish queue u with
    | error status v => simp [flushed, waited] at finished
    | ok _ v =>
      simp only [flushed, waited, EStateM.Result.ok.injEq, Prod.mk.injEq, true_and] at finished
      obtain ⟨rfl, rfl⟩ := finished
      exact ⟨u, rfl, waited, rfl⟩

/-- What is measured of a cycle are the executions of its events, in the order of the stages. -/
theorem spans_of_metrics (told : p.metrics s = .ok m t)
    {runs : List (EventHandle × Execution)} (events : runs.map (·.1) = Stage.all.filterMap p.event)
    (ran : ∀ run ∈ runs, s.execution? run.1 = some run.2) :
    m.times.map (·.span) = runs.map fun run => run.2.span := by
  -- Both sides are read off the events of the stages, in their order.
  have stages : ∀ stage, (m.of stage).times.map (·.span) =
      (p.event stage).bind fun event => (s.execution? event).map (·.span) := by
    intro stage
    cases known : (m.of stage).times with
    | none =>
      rw [(recorded_of_metrics told stage).2.1 known]
      rfl
    | some times =>
      obtain ⟨event, x, held, ran, started, ended⟩ := metrics_ok told stage known
      rw [held, Option.map_some, Option.bind_some, ran, Option.map_some, Timestamps.span,
        Execution.span, started, ended]
  have executed : runs.map (fun run => run.2.span) =
      runs.filterMap fun run => (s.execution? run.1).map (·.span) := by
    rw [← List.filterMap_eq_map]
    refine List.filterMap_congr fun run mem => ?_
    rw [ran run mem]
    rfl
  have measured : m.times = Stage.all.filterMap fun stage => (m.of stage).times := rfl
  calc m.times.map (·.span)
      = Stage.all.filterMap fun stage =>
          (p.event stage).bind fun event => (s.execution? event).map (·.span) := by
        rw [measured, List.map_filterMap]
        exact List.filterMap_congr fun stage _ => stages stage
    _ = (Stage.all.filterMap p.event).filterMap fun event => (s.execution? event).map (·.span) :=
        List.filterMap_filterMap.symm
    _ = runs.map fun run => run.2.span := by
        rw [executed, ← events, List.filterMap_map]
        rfl

end Pipeline

namespace Session

variable {s t : Session Simulator} {stage : Stage} {m : CycleMetrics}

/-! ### Stages of a cycle -/

namespace Entered

variable (entered : s.Entered stage t)
include entered

theorem state : t.pipeline.state = stage.leadsTo := by
  cases entered <;> rfl

/-- A stage leaves the events of the other stages, unless it begins a cycle. -/
theorem event_of_ne (later : stage ≠ .load) {other : Stage} (ne : other ≠ stage) :
    t.pipeline.event other = s.pipeline.event other := by
  cases entered <;> rw [Pipeline.event_submitted, if_neg ne, if_neg later, Pipeline.cleared,
    if_neg later]

/-- A stage puts its command behind those that are pending, if there are any of this cycle. -/
theorem train {since : Nat} {events : List EventHandle} (sound : s.Sound)
    (train : s.backend.Train s.device.queue since events) (first : stage = .load → events = [])
    (last : (s.pipeline.cleared stage).awaited stage = events.getLast?) :
    t.backend.Train t.device.queue since (events ++ (t.pipeline.event stage).toList) := by
  have cleared {b : Simulator} (clears : Pipeline.Clears stage s.backend b) :
      b.Train s.device.queue since events := by
    by_cases load : stage = .load
    · obtain rfl := first load
      rw [clears.gaveBack.rest]
      exact ⟨train.pending, trivial, List.nodup_nil, train.clock, train.free⟩
    · rw [Pipeline.Clears, if_neg load] at clears
      rwa [clears]
  cases entered with
  | skipped clears moves bytes =>
    rw [Pipeline.event_submitted, if_pos rfl, Option.toList_none, List.append_nil]
    exact cleared clears
  | accepted clears found =>
    have numbered := (sound.1.gaveBack clears.gaveBack).numbered
    rw [Pipeline.event_submitted, if_pos rfl, last]
    exact (cleared clears).submitted numbered found _ _

end Entered

/-- The compute stage is never skipped. -/
theorem Entered.computes (entered : s.Entered .compute t) :
    ∃ event, t.pipeline.event .compute = some event := by
  cases entered with
  | skipped clears moves bytes => exact absurd rfl moves
  | accepted clears found => exact ⟨_, rfl⟩

theorem filterMap_stages {α : Type} (f : Stage → Option α) :
    Stage.all.filterMap f = (f .load).toList ++ (f .compute).toList ++ (f .store).toList := by
  simp only [Stage.all, List.filterMap_cons, List.filterMap_nil]
  cases f .load <;> cases f .compute <;> cases f .store <;> rfl

theorem Reachable.enters (reachable : s.Reachable)
    (ready : stage.startsFrom.contains s.pipeline.state = true) :
    ∃ t, (Step.submit stage).operation.perform s = .ok () t ∧ s.Entered stage t ∧ t.Reachable := by
  obtain ⟨t, submitted, entered⟩ := (sound_of_reachable reachable).enters ready
  have later := reachable.perform (Step.submit stage).operation
  rw [submitted, stateOf_ok] at later
  exact ⟨t, submitted, entered, later⟩

/-- The stages of a cycle that is begun in order are submitted one after the other; if nothing was
pending, their commands are pending then. -/
theorem Reachable.cycle {since : Nat} (reachable : s.Reachable)
    (ready : Stage.load.startsFrom.contains s.pipeline.state = true)
    (train : s.backend.Train s.device.queue since []) :
    ∃ t : Session Simulator, t.Reachable ∧ run wholeCycle s = Step.finish.operation.perform t ∧
      t.backend.Train t.device.queue since (Stage.all.filterMap t.pipeline.event) := by
  obtain ⟨t, loaded, load, reachable₁⟩ := reachable.enters ready
  have compute_ready : Stage.compute.startsFrom.contains t.pipeline.state = true := by
    rw [load.state]
    rfl
  obtain ⟨u, computed, compute, reachable₂⟩ := reachable₁.enters compute_ready
  have store_ready : Stage.store.startsFrom.contains u.pipeline.state = true := by
    rw [compute.state]
    rfl
  obtain ⟨v, stored, store, reachable₃⟩ := reachable₂.enters store_ready
  refine ⟨v, reachable₃, ?_, ?_⟩
  · have last : run [.finish] v = Step.finish.operation.perform v := by
      rw [run_cons]
      cases Step.finish.operation.perform v <;> rfl
    exact (run_cons_of_ok loaded _).trans ((run_cons_of_ok computed _).trans
      ((run_cons_of_ok stored _).trans last))
  · obtain ⟨event, there⟩ := compute.computes
    have first := load.train (sound_of_reachable reachable) train (fun _ => rfl) rfl
    rw [List.nil_append] at first
    have second := compute.train (sound_of_reachable reachable₁) first nofun (by
      cases held : t.pipeline.event .load <;> exact held)
    have third := store.train (sound_of_reachable reachable₂) second nofun (by
      rw [there, Option.toList_some, List.getLast?_concat]
      exact there)
    have load_stays : v.pipeline.event .load = t.pipeline.event .load :=
      (store.event_of_ne (by decide) (by decide)).trans (compute.event_of_ne (by decide) (by decide))
    have compute_stays : v.pipeline.event .compute = u.pipeline.event .compute :=
      store.event_of_ne (by decide) (by decide)
    rw [filterMap_stages, load_stays, compute_stays]
    exact third

/-! ### Whole cycles -/

/-- A cycle that is begun with nothing pending lasts as long as its stages together, and takes the
clock on by the time in which its commands are put into the queue and by the time that it lasts. -/
theorem invoke_time (reachable : s.Reachable)
    (idle : s.backend.pendingOf s.device.queue = [])
    (ready : Stage.load.startsFrom.contains s.pipeline.state = true) (ran : invoke s = .ok m t) :
    m.span = m.load.elapsed + m.compute.elapsed + m.store.elapsed ∧
      t.backend.clock = s.backend.clock + enqueueTime * m.times.length + m.span := by
  have computed := (accounts_of_invoke ran).1.computed
  obtain ⟨u, reached, cycle, train⟩ := reachable.cycle ready (Simulator.train_of_idle idle reachable.free)
  rw [invoke_apply, cycle] at ran
  cases outcome : Step.finish.operation.perform u with
  | error e w =>
    rw [outcome] at ran
    contradiction
  | ok _ w =>
    rw [outcome] at ran
    obtain ⟨p, b, finished, rfl⟩ :=
      onPipeline_ok (x := Pipeline.finish u.device.queue) (s := u) outcome
    have asks : onBackend p.metrics _ = .ok m t := ran
    obtain ⟨b', told, rfl⟩ := within_ok asks
    obtain rfl := Pipeline.state_of_metrics told
    obtain ⟨v, flushed, waited, rfl⟩ := Pipeline.finish_parts finished
    obtain ⟨runs, events, executed, relay⟩ :=
      train.finished reached.backend.sized flushed waited
    have spans := Pipeline.spans_of_metrics told events executed
    rw [← spans] at relay
    have stages : m.times.length = (Stage.all.filterMap u.pipeline.event).length := by
      rw [← events, List.length_map, ← List.length_map (·.span), spans, List.length_map]
    have some : m.times ≠ [] := by
      obtain ⟨times, known⟩ := Option.ne_none_iff_exists'.1 computed
      exact List.ne_nil_of_mem (List.mem_filterMap.2 ⟨m.compute, by simp [CycleMetrics.stages], known⟩)
    obtain ⟨span, clock⟩ := CycleMetrics.span_of_relay some relay
    refine ⟨span, ?_⟩
    rw [clock, train.clock, stages]

/-- What is measured of a cycle can be measured again. -/
theorem metrics_of_invoke (ran : invoke s = .ok m t) :
    t.pipeline.metrics t.backend = .ok m t.backend := by
  rw [invoke_apply] at ran
  cases cycle : run wholeCycle s with
  | error e u =>
    rw [cycle] at ran
    contradiction
  | ok _ u =>
    rw [cycle] at ran
    have asks : onBackend u.pipeline.metrics u = .ok m t := ran
    obtain ⟨b, told, rfl⟩ := within_ok asks
    obtain rfl := Pipeline.state_of_metrics told
    exact told

/-- The stages of the first cycle of a session take what their commands cost when it begins. -/
theorem elapsed_of_invoke (reachable : s.Reachable) (new : s.pipeline = {}) (ran : invoke s = .ok m t)
    {times : Timestamps} (known : (m.of stage).times = some times) :
    (m.of stage).elapsed = s.backend.costOf (commandOf s.device s.buffers stage) := by
  have unbilled : Billed (fun u _ => u = s) s.pipeline s.backend := by
    intro stage event held
    rw [new] at held
    cases stage <;> contradiction
  have billed := billed_perform unbilled (sound_of_reachable reachable) reachable.backend
    reachable.knows (fun _ _ => rfl) .invoke
  have performed : Operation.invoke.perform s = .ok () t := discard_of_ok ran
  rw [performed, stateOf_ok] at billed
  obtain ⟨event, x, held, executed, started, ended⟩ :=
    Pipeline.metrics_ok (metrics_of_invoke ran) stage known
  obtain ⟨u, rfl, bill⟩ := billed stage event held
  rw [StageMetrics.elapsed, known]
  dsimp only
  rw [Timestamps.elapsed, started, ended, bill.priced.took x executed, Nat.add_sub_cancel_left]

/-- A cycle that was measured was begun in order. -/
theorem ready_of_invoke (ran : invoke s = .ok m t) :
    Stage.load.startsFrom.contains s.pipeline.state = true := by
  cases ready : Stage.load.startsFrom.contains s.pipeline.state with
  | true => rfl
  | false =>
    rw [invoke_apply, wholeCycle, Stage.all, List.map_cons, List.cons_append, run_cons,
      perform_of_late ready] at ran
    contradiction

theorem config_of_start {σ : Type} [ComputeApi σ] {image : Image} {config : SessionConfig}
    {backend : σ} {s : Session σ} (started : start image config backend = .ok s) :
    s.config = config := by
  rw [start] at started
  split at started
  · contradiction
  · cases started
    rfl

/-- Adding words comes to what a cycle lasts, and to when it is over, if times are words then. -/
theorem sums_of_invoke (reachable : s.Reachable)
    (idle : s.backend.pendingOf s.device.queue = []) (ran : invoke s = .ok m t)
    (words : t.backend.InWords) :
    m.span = sumWords [m.load.elapsed, m.compute.elapsed, m.store.elapsed] ∧
      t.backend.clock = sumWords [s.backend.clock, 100 * m.times.length, m.span] := by
  obtain ⟨span, clock⟩ := invoke_time reachable idle (ready_of_invoke ran) ran
  rw [enqueueTime] at clock
  have word : IsWord m.span := words.clock.of_le (by rw [clock]; exact Nat.le_add_left _ _)
  constructor
  · refine (sumWords_eq_of_sum_eq ?_ word).symm
    rw [span, List.sum_cons, List.sum_cons, List.sum_singleton, Nat.add_assoc]
  · refine (sumWords_eq_of_sum_eq ?_ words.clock).symm
    rw [clock, List.sum_cons, List.sum_cons, List.sum_singleton, Nat.add_assoc]

/-- Bytes and times agree. A session begins on a queue that records times, and any operations
follow, of which any may fail, but times stay words. Then every stage whose event is held and has
ended reports the bytes of the buffers that its command names, as large as they were when the
operation began that submitted it, whatever became of them since: all of these bytes if their number
is a word. It reports to have taken 1000 and the time in which these bytes move; the compute stage
reports no bytes and the time of the kernel. A cycle that is run with nothing pending lasts as long
as its stages together, on a queue that works in order or not, and takes the clock on by 100 for
each command that it submits and by the time that it lasts, if times are words then; it does run if
it may be begun. Adding words comes to the same sums. -/
theorem stages_and_cycles_add_up {backend : Simulator} {image : Image} {config : SessionConfig}
    (reachable : backend.Reachable) (started : start image config backend = .ok s)
    (profiling : config.queue.profiling = true) (operations : List Operation)
    (words : (s.performAll operations).backend.InWords) :
    let t := s.performAll operations
    (∀ stage event, t.pipeline.event stage = some event → t.backend.Ended event →
      ∃ u, Handed s operations u event ∧
        let command := commandOf u.device u.buffers stage
        t.backend.eventCommand? event = some command ∧
        (∀ b ∈ command.buffers, u.backend.buffers.contains b = true) ∧
        ∃ measured times, t.pipeline.Reports t.backend stage measured ∧
          measured.times = some times ∧
          addWords times.started measured.elapsed = times.ended ∧
          measured.bytes = u.backend.bytesOf command.buffers ∧
          (IsWord (command.buffers.map u.backend.sizeOf).sum →
            measured.bytes = (command.buffers.map u.backend.sizeOf).sum) ∧
          (stage ≠ .compute →
            measured.elapsed = 1000 + measured.bytes ⌈/⌉ t.backend.bandwidth) ∧
          (stage = .compute → measured.bytes = 0 ∧ measured.elapsed = t.backend.kernelTime)) ∧
    (t.backend.pendingOf t.device.queue = [] →
      (Stage.load.startsFrom.contains t.pipeline.state = true → ∃ m v, invoke t = .ok m v) ∧
      ∀ m v, invoke t = .ok m v → v.backend.InWords → m.AccountsFor t.buffers ∧
        m.span = m.load.elapsed + m.compute.elapsed + m.store.elapsed ∧
        m.span = sumWords [m.load.elapsed, m.compute.elapsed, m.store.elapsed] ∧
        v.backend.clock = t.backend.clock + 100 * m.times.length + m.span ∧
        v.backend.clock = sumWords [t.backend.clock, 100 * m.times.length, m.span]) := by
  intro t
  have begun := Reachable.start reachable started
  have reached : t.Reachable := begun.performAll operations
  have sound := sound_of_reachable reached
  have told : t.config.queue.profiling = true := by
    rw [config_performAll s operations, config_of_start started, profiling]
  refine ⟨fun stage event held ended => ?_, fun idle => ⟨fun ready => ?_, fun m v ran later => ?_⟩⟩
  · obtain ⟨u, handed, bill⟩ := billed_performAll reachable started operations stage event held
    have profiled : t.backend.profilingOf event = some true := by
      rw [reached.profilingOf held, told]
    obtain ⟨measured, times, reports, timed, ⟨x, executed, -, past⟩, whole, bytes, elapsed⟩ :=
      bill.reports held profiled ended
    have added : addWords times.started measured.elapsed = times.ended := by
      have word : IsWord times.ended := past ▸ words.ended executed
      rw [whole] at word ⊢
      exact addWords_of_isWord word
    refine ⟨u, handed, bill.eventCommand? (sound.2.live stage event held),
      handed.contains_commandOf begun stage, measured, times, reports, timed, added, bytes,
      fun word => bytes.trans (sumWords_of_isWord word), fun moves => ?_, ?_⟩
    · rw [elapsed, bytes, Nat.ceilDiv_eq_add_pred_div, bill.priced.bandwidth]
      cases stage with
      | compute => exact absurd rfl moves
      | _ => rfl
    · rintro rfl
      exact ⟨bytes, elapsed.trans bill.priced.kernelTime.symm⟩
  · obtain ⟨m, v, ran, -⟩ := invoke_of_running (running_of_sound sound idle ready) reached ready told
    exact ⟨m, v, ran⟩
  · obtain ⟨span, clock⟩ := invoke_time reached idle (ready_of_invoke ran) ran
    obtain ⟨span_words, clock_words⟩ := sums_of_invoke reached idle ran later
    exact ⟨(accounts_of_invoke ran).1, span, span_words, clock, clock_words⟩

/-- The buffer of a cycle is exchanged for another one once the cycle has been measured. -/
def measuredThenExchanged : List Operation :=
  [.createBuffer ⟨0, .readWrite, 16, none, .none⟩, .invoke,
    .createBuffer ⟨0, .readOnly, 32, none, .none⟩]

/-- The load stage still reports the bytes of the buffer that is gone, and the next cycle has no
store stage. -/
theorem stages_and_cycles_add_up_exchanged :
    let t := (begun oneArgument [] {}).performAll measuredThenExchanged
    (oneArgument.host []).Reachable ∧
    start oneArgument {} (oneArgument.host []) = .ok (begun oneArgument [] {}) ∧
    t.backend.InWords ∧
    (∃ measured, t.pipeline.Reports t.backend .load measured ∧ measured.bytes = 16 ∧
      measured.elapsed = 1002) ∧
    ∃ m v, invoke t = .ok m v ∧ v.backend.InWords ∧ m.store.times = none ∧
      m.span = m.load.elapsed + m.compute.elapsed + m.store.elapsed ∧
      v.backend.clock = t.backend.clock + 100 * m.times.length + m.span := by
  intro t
  have reachable : (oneArgument.host []).Reachable := .start ⟨rfl, rfl, rfl, rfl, rfl, rfl, rfl⟩
  have started := start_oneArgument []
  have words : t.backend.InWords := by decide +kernel
  have later : (stateOf (invoke t)).backend.InWords := by decide +kernel
  have agree := stages_and_cycles_add_up reachable started (by decide) measuredThenExchanged words
  have held : t.pipeline.event .load = some ⟨6⟩ := by decide +kernel
  have bytes : t.pipeline.bytes .load = 16 := by decide +kernel
  have bandwidth : t.backend.bandwidth = 8 := by decide +kernel
  have ended : t.backend.Ended ⟨6⟩ := by
    rw [Simulator.Ended]
    decide +kernel
  have idle : t.backend.pendingOf t.device.queue = [] := by decide +kernel
  have ready : Stage.load.startsFrom.contains t.pipeline.state = true := by decide +kernel
  have nothing : t.buffers.storeHandles = [] := by decide +kernel
  -- From here on it does not matter how the session came to its state.
  have state : (begun oneArgument [] {}).performAll measuredThenExchanged = t := rfl
  dsimp only at agree
  rw [state] at agree
  clear_value t
  obtain ⟨stages, cycles⟩ := agree
  obtain ⟨u, -, -, -, measured, -, reports, -, -, -, -, elapsed, -⟩ := stages .load ⟨6⟩ held ended
  obtain ⟨runs, total⟩ := cycles idle
  obtain ⟨m, v, ran⟩ := runs ready
  rw [ran, stateOf_ok] at later
  obtain ⟨accounts, span, -, clock, -⟩ := total m v ran later
  have recorded := (Pipeline.recorded_of_measure reports.measure).1.trans bytes
  refine ⟨reachable, started, words, ⟨measured, reports, recorded, ?_⟩, m, v, ran, later,
    accounts.store_skipped.2 nothing, span, clock⟩
  rw [elapsed (by decide), recorded, bandwidth]
  decide

end Session

end FpgaHost
