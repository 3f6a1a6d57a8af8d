import FpgaHost.Proofs.Session.DataFlow
import FpgaHost.Proofs.Session.Submissions
import FpgaHost.Proofs.Simulator.Timeline
import FpgaHost.Proofs.Simulator.Words
import FpgaHost.Proofs.Word

/-!
# Stages in turn

The stages of a cycle are chained by what their commands wait for: the load stage for nothing, the
compute stage for the load stage of the same cycle, the store stage for its compute stage. Nothing
comes in between, whatever the backend refuses and whatever other operations there are. On a
simulator each stage therefore begins after those before it have ended, and a cycle spans at least
as much time as its stages take, as long as times are words.

Main statement: `stages_chained`.
-/

namespace FpgaHost

open Steps Attempt

/-- The place of a stage in its cycle. -/
def Stage.place : Stage → Nat
  | .load => 0
  | .compute => 1
  | .store => 2

/-! ### Times of a cycle -/

/-- Stages that took their times one after the other span at least the sum of what they took. -/
theorem CycleMetrics.sum_le_span {m : CycleMetrics}
    (forward : ∀ stage times, (m.of stage).times = some times → times.started ≤ times.ended)
    (inTurn : ∀ stage later, stage.place < later.place → ∀ x y, (m.of stage).times = some x →
      (m.of later).times = some y → x.ended ≤ y.started) :
    m.load.elapsed + m.compute.elapsed + m.store.elapsed ≤ m.span := by
  have load := forward .load
  have compute := forward .compute
  have store := forward .store
  have first := inTurn .load .compute (by decide)
  have second := inTurn .compute .store (by decide)
  have whole := inTurn .load .store (by decide)
  simp only [of] at load compute store first second whole
  simp only [span, stages, StageMetrics.elapsed, Timestamps.elapsed]
  cases loads : m.load.times <;> cases computes : m.compute.times <;>
    cases stores : m.store.times <;> simp_all <;> omega

/-- A cycle does not span more than a word if its stages ended at words. -/
theorem CycleMetrics.isWord_span {m : CycleMetrics}
    (words : ∀ stage times, (m.of stage).times = some times → IsWord times.ended) :
    IsWord m.span := by
  have ends : ∀ times ∈ m.stages.filterMap (·.times), IsWord times.ended := by
    intro times mem
    obtain ⟨measured, there, some⟩ := List.mem_filterMap.1 mem
    obtain ⟨stage, -, rfl⟩ := List.mem_map.1 (show measured ∈ Stage.all.map m.of from there)
    exact words stage times some
  rw [span]
  split
  next started ended first last =>
    obtain ⟨times, mem, rfl⟩ := List.mem_map.1 (List.max?_eq_some_iff.1 last).1
    exact (ends times mem).of_le (Nat.sub_le _ _)
  · decide

/-! ### Cycles on a simulator -/

namespace Cycle

variable {c : Cycle} {cycles : List Cycle} {t : Trace} {stage : Stage} {e f : EventHandle}
  {x y : Execution}

/-- Of the stages of a cycle that were carried out, each began after those before it had ended. -/
def InTurn (c : Cycle) (log : List (EventHandle × Option Execution)) : Prop :=
  ∀ stage later, stage.place < later.place → ∀ e f x y, c.event stage = some e →
    c.event later = some f → (e, some x) ∈ log → (f, some y) ∈ log → x.ended ≤ y.started

theorem mem_commands (submitted : c.event stage = some f) :
    ⟨stage, f, (c.awaited stage).toList⟩ ∈ c.commands := by
  refine List.mem_filterMap.2 ⟨stage, ?_, ?_⟩
  · cases stage <;> decide
  · rw [command?, submitted]
    rfl

/-- A stage that was carried out began after the stage that it waits for. -/
theorem began_after (timely : t.Timely (cycles.flatMap commands)) (mem : c ∈ cycles)
    (submitted : c.event stage = some f) (ran : (f, some y) ∈ t.completed)
    (awaited : c.awaited stage = some e) :
    ∃ x, (e, some x) ∈ t.completed ∧ x.ended ≤ y.started :=
  timely.began _ (List.mem_flatMap.2 ⟨c, mem, mem_commands submitted⟩) y ran e
    (Option.mem_toList.2 awaited)

/-- So all stages before it had ended. -/
theorem inTurn_of_timely (timely : t.Timely (cycles.flatMap commands)) (mem : c ∈ cycles)
    (whole : c.store.isSome → c.compute.isSome) : c.InTurn t.completed := by
  have next : ∀ stage {e f x y}, c.awaited stage = some e → c.event stage = some f →
      (e, some x) ∈ t.completed → (f, some y) ∈ t.completed → x.ended ≤ y.started := by
    intro stage e f x y awaited submitted first second
    obtain ⟨z, ran, by_start⟩ := began_after timely mem submitted second awaited
    rwa [timely.once first ran]
  intro stage later before e f x y here there first second
  cases stage <;> cases later <;> first | exact absurd before (by decide) | skip
  · exact next .compute here there first second
  · -- The compute stage was carried out in between.
    obtain ⟨g, computed⟩ := Option.isSome_iff_exists.1 (whole (Option.isSome_of_eq_some there))
    have waits : c.awaited .store = some g := computed
    obtain ⟨z, ran, by_start⟩ := began_after timely mem there second waits
    have loaded := next .compute here computed first ran
    have forward := timely.forward g z ran
    omega
  · exact next .store here there first second

end Cycle

namespace Session

/-- A session whose backend is put into a wrapper. -/
def instrumented {σ : Type} (s : Session σ) (instruments : Instruments) :
    Session (Instrumented σ) :=
  { s with backend := { inner := s.backend, instruments } }

section
variable {σ : Type} {s t : Session σ}

/-! ### Stages that are skipped -/

variable [ComputeApi σ] {event : Option EventHandle}

/-- The load stage is skipped exactly if there is nothing to load. -/
theorem skipped_iff_of_write (wrote : write s = .ok event t) :
    event = none ↔ s.buffers.loadHandles = [] := by
  have submits : onPipeline (Pipeline.write s.device.queue s.buffers) s = .ok event t := wrote
  obtain ⟨pb, wrote, -⟩ := within_ok submits
  exact (Pipeline.write_ok wrote).2

/-! ### Sessions -/

/-- A session that begins has submitted nothing. -/
theorem chained_of_start {image : Image} {config : SessionConfig} {backend : σ}
    (started : start image config backend = .ok s) {H : List StageCommand → σ → Prop}
    (h : H [] s.backend) : s.Chained H [] := by
  refine ⟨?_, h⟩
  rw [(new_of_start started).2]
  exact Pipeline.linked_nil

/-- So has one whose backend is put into a wrapper then. -/
theorem chained_instrumented {image : Image} {config : SessionConfig} {backend : σ}
    (started : start image config backend = .ok s) (instruments : Instruments)
    {H : List StageCommand → Instrumented σ → Prop}
    (h : H [] (s.instrumented instruments).backend) :
    (s.instrumented instruments).Chained H [] :=
  ⟨(chained_of_start started (H := fun _ _ => True) trivial).1, h⟩

/-- What a backend is told of the stages of a session that has begun. In the history of a wrapper
that makes any calls fail, the commands accepted are those of the cycles, each with what it has to
wait for. -/
structure ChainsStages (s : Session σ) : Prop where
  /-- What the commands of a cycle wait for is in `Cycle.commands`. -/
  commands : ∀ instruments operations,
    commandsOf ((s.instrumented instruments).performAll operations).backend.history =
      ((s.instrumented instruments).cyclesOf operations).flatMap Cycle.commands
  /-- A store stage has a compute stage to wait for. -/
  computed : ∀ instruments operations, ∀ c ∈ (s.instrumented instruments).cyclesOf operations,
    c.store.isSome → c.compute.isSome
  /-- A load stage is there to wait for unless no buffer is to be loaded. -/
  loaded : ∀ instruments operations event t,
    write ((s.instrumented instruments).performAll operations) = .ok event t →
    (event = none ↔ ∀ index b,
      ((s.instrumented instruments).performAll operations).buffers.buffers.get? index = some b →
      b.access.loads = false)

theorem chainsStages_of_start {image : Image} {config : SessionConfig} {backend : σ}
    (started : start image config backend = .ok s) : s.ChainsStages := by
  have chained : ∀ instruments operations,
      ((s.instrumented instruments).performAll operations).Chained
        (fun done b => commandsOf b.history = done)
        ((s.instrumented instruments).cyclesOf operations) := fun instruments operations =>
    recording_history.chained_performAll (chained_instrumented started instruments rfl) operations
  refine ⟨fun instruments operations => (chained instruments operations).2,
    fun instruments operations => (chained instruments operations).1.whole, ?_⟩
  intro instruments operations event t wrote
  have begun : s.buffers.Marked := marked_of_start started
  have marked := holds_performAll (s := s.instrumented instruments)
    (P := fun s => s.buffers.Marked) preserves_marked begun operations
  exact (skipped_iff_of_write wrote).trans marked.load.handles_eq_nil_iff

end

section
variable {s u : Session Simulator} {cycles : List Cycle} {m : CycleMetrics}

/-- What is measured of a stage is when its command ran, by the simulator that is left. -/
theorem backend_of_metrics (measured : metrics s = .ok m u) {stage : Stage} {times : Timestamps}
    (told : (m.of stage).times = some times) :
    ∃ e x, s.pipeline.event stage = some e ∧ s.backend.execution? e = some x ∧
      u.backend.execution? e = some x ∧ times.started = x.started ∧ times.ended = x.ended := by
  have asks : onBackend s.pipeline.metrics s = .ok m u := measured
  obtain ⟨b, answered, rfl⟩ := within_ok asks
  obtain ⟨e, x, held, ran, started, ended⟩ := Pipeline.metrics_ok answered stage told
  obtain rfl := Pipeline.state_of_metrics answered
  exact ⟨e, x, held, ran, ran, started, ended⟩

/-- What is measured of a stage is when the stage of the latest cycle was carried out. -/
theorem ran_of_metrics {t : Trace} (linked : Pipeline.Linked cycles s.pipeline)
    (logged : s.backend.Logged t.completed) (measured : metrics s = .ok m u) {stage : Stage}
    {times : Timestamps} (told : (m.of stage).times = some times) :
    ∃ c e x, cycles.head? = some c ∧ c.event stage = some e ∧ (e, some x) ∈ t.completed ∧
      times.started = x.started ∧ times.ended = x.ended := by
  obtain ⟨e, x, held, ran, -, started, ended⟩ := backend_of_metrics measured told
  obtain ⟨c, latest, mine⟩ := linked.held stage e held
  exact ⟨c, e, x, latest, mine, logged e x ran, started, ended⟩

/-- What is measured of a session spans the sum of what its stages took at least, and this sum is a
word if times are. -/
theorem sum_le_span_of_chained
    (chained : s.Chained (fun done b => ∃ t : Trace, t.state = b ∧ t.Timely done) cycles)
    (measured : metrics s = .ok m u) (words : u.backend.InWords) :
    m.load.elapsed + m.compute.elapsed + m.store.elapsed ≤ m.span ∧
      sumWords [m.load.elapsed, m.compute.elapsed, m.store.elapsed] =
        m.load.elapsed + m.compute.elapsed + m.store.elapsed := by
  obtain ⟨linked, trace, state, timely⟩ := chained
  have logged := timely.logged
  rw [state] at logged
  have word : IsWord m.span := by
    refine CycleMetrics.isWord_span fun stage times some => ?_
    obtain ⟨e, x, -, -, ran, -, ended⟩ := backend_of_metrics measured some
    rw [ended]
    exact words.ended ran
  have sum : [m.load.elapsed, m.compute.elapsed, m.store.elapsed].sum =
      m.load.elapsed + m.compute.elapsed + m.store.elapsed := by
    simp only [List.sum_cons, List.sum_nil, Nat.add_zero, Nat.add_assoc]
  suffices short : m.load.elapsed + m.compute.elapsed + m.store.elapsed ≤ m.span from
    ⟨short, sumWords_eq_of_sum_eq sum (word.of_le short)⟩
  refine CycleMetrics.sum_le_span (fun stage times some => ?_)
    fun stage later before x y first second => ?_
  · obtain ⟨c, e, x, -, -, ran, started, ended⟩ := ran_of_metrics linked logged measured some
    rw [started, ended]
    exact timely.forward e x ran
  · obtain ⟨c, e, x, latest, here, ranHere, -, ended⟩ :=
      ran_of_metrics linked logged measured first
    obtain ⟨d, f, y, same, there, ranThere, started, -⟩ :=
      ran_of_metrics linked logged measured second
    obtain rfl := Option.some.inj (latest.symm.trans same)
    have mem := List.mem_of_mem_head? latest
    have inTurn := Cycle.inTurn_of_timely timely mem (linked.whole c mem)
    rw [ended, started]
    exact inTurn stage later before e f x y here there ranHere ranThere

/-- When the stages of a session that has begun on a simulator are carried out. -/
structure RunsInTurn (s : Session Simulator) : Prop where
  /-- A wrapper without instruments has seen all that was asked of the simulator. -/
  followed : ∀ operations,
    (Trace.of s.backend ((s.instrumented {}).performAll operations).backend.requests).state =
      ((s.instrumented {}).performAll operations).backend.inner
  /-- Of the stages of a cycle that were carried out, each began after those before it had ended. -/
  inTurn : ∀ operations, ∀ c ∈ (s.instrumented {}).cyclesOf operations, c.InTurn
    (Trace.of s.backend ((s.instrumented {}).performAll operations).backend.requests).completed
  /-- What is measured of a cycle spans the sum of what its stages took at least, as long as times
  are words; words add up to the same sum. -/
  span : ∀ operations m t, metrics (s.performAll operations) = .ok m t ∨
    invoke (s.performAll operations) = .ok m t → t.backend.InWords →
    m.load.elapsed + m.compute.elapsed + m.store.elapsed ≤ m.span ∧
      sumWords [m.load.elapsed, m.compute.elapsed, m.store.elapsed] =
        m.load.elapsed + m.compute.elapsed + m.store.elapsed

theorem runsInTurn_of_start {image : Image} {config : SessionConfig} {backend : Simulator}
    (reachable : backend.Reachable) (started : start image config backend = .ok s) :
    s.RunsInTurn := by
  obtain ⟨trace, state, timely⟩ := Trace.exists_timely (Reachable.start reachable started).backend
  have watched : ∀ operations, ((s.instrumented {}).performAll operations).Chained
      (fun done b => b.instruments = {} ∧ (trace.run b.requests).state = b.inner ∧
        (trace.run b.requests).Timely done) ((s.instrumented {}).cyclesOf operations) :=
    (Trace.recording_run trace).chained_performAll
      (chained_instrumented started {} ⟨rfl, state, timely⟩)
  refine ⟨fun operations => ?_, fun operations c mem => ?_, fun operations m t measured words => ?_⟩
  · obtain ⟨-, -, same, -⟩ := watched operations
    rw [← same, Trace.of, Trace.state_run, Trace.state_run, state]
  · obtain ⟨linked, -, -, later⟩ := watched operations
    have inTurn := Cycle.inTurn_of_timely later mem (linked.whole c mem)
    rw [Trace.completed_run, state] at inTurn
    intro stage later before e f x y here there first second
    exact inTurn stage later before e f x y here there (List.mem_append_right _ first)
      (List.mem_append_right _ second)
  · have chained := Trace.recording_timely.chained_performAll
      (chained_of_start started ⟨trace, state, timely⟩) operations
    rcases measured with told | ran
    · exact sum_le_span_of_chained chained told words
    · rw [invoke_apply] at ran
      cases cycle : run wholeCycle (s.performAll operations) with
      | error e u =>
        rw [cycle] at ran
        contradiction
      | ok _ u =>
        rw [cycle] at ran
        have later := Trace.recording_timely.chained_performAll chained
          (wholeCycle.map Step.operation)
        rw [performAll_of_run cycle] at later
        exact sum_le_span_of_chained later ran words

end

/-- Stages are chained. On every backend, whatever it fails and whatever operations there are, the
commands that it accepts are those of the cycles of a session: the load stage waits for nothing, the
compute stage for the load stage of its cycle unless that had nothing to load, and the store stage
for the compute stage of its cycle. So on a simulator the stages of a cycle are carried out in turn,
and a cycle that is measured spans the sum of what its stages took at least, as long as times are
words. -/
theorem stages_chained (image : Image) (config : SessionConfig) :
    (∀ {σ : Type} [ComputeApi σ] (backend : σ) (s : Session σ),
      start image config backend = .ok s → s.ChainsStages) ∧
    (∀ (backend : Simulator) (s : Session Simulator), backend.Reachable →
      start image config backend = .ok s → s.RunsInTurn) :=
  ⟨fun _ _ started => chainsStages_of_start started,
    fun _ _ reachable started => runsInTurn_of_start reachable started⟩

/-- A session with a buffer that is both read and written. -/
def buffered : List Operation := [.createBuffer ⟨0, .readWrite, 64, none, .none⟩]

/-- On a simulator all three stages run. -/
theorem stages_chained_oneArgument :
    (oneArgument.host []).Reachable ∧
    start oneArgument {} (oneArgument.host []) = .ok (begun oneArgument [] {}) ∧
    (begun oneArgument [] {}).ChainsStages ∧ (begun oneArgument [] {}).RunsInTurn ∧
    ∃ m t, invoke ((begun oneArgument [] {}).performAll buffered) = .ok m t ∧ t.backend.InWords ∧
      m.load.elapsed = 1008 ∧ m.compute.elapsed = 10000 ∧ m.store.elapsed = 1008 ∧
      m.load.elapsed + m.compute.elapsed + m.store.elapsed ≤ m.span := by
  have reachable : (oneArgument.host []).Reachable := .start ⟨rfl, rfl, rfl, rfl, rfl, rfl, rfl⟩
  have started := start_oneArgument []
  have chained := stages_chained oneArgument {}
  have inTurn := chained.2 _ _ reachable started
  refine ⟨reachable, started, chained.1 _ _ started, inTurn, ?_⟩
  have took : (match invoke ((begun oneArgument [] {}).performAll buffered) with
      | .ok m t => decide (t.backend.InWords ∧ m.load.elapsed = 1008 ∧ m.compute.elapsed = 10000 ∧
          m.store.elapsed = 1008)
      | .error _ _ => false) = true := by decide +kernel
  cases ran : invoke ((begun oneArgument [] {}).performAll buffered) with
  | error e t =>
    rw [ran] at took
    exact absurd took Bool.false_ne_true
  | ok m t =>
    rw [ran] at took
    obtain ⟨words, load, compute, store⟩ := of_decide_eq_true took
    have short := (inTurn.span buffered m t (.inr ran) words).1
    exact ⟨m, t, rfl, words, load, compute, store, short⟩

/-- Two cycles, the second without a buffer to load. -/
example : ((begun oneArgument [] {}).instrumented {}).cyclesOf
    [.createBuffer ⟨0, .readWrite, 64, none, .none⟩, .write, .execute, .read, .finish,
      .createBuffer ⟨0, .writeOnly, 64, none, .none⟩, .write, .finish, .execute, .read] =
    [⟨none, some ⟨10⟩, some ⟨11⟩⟩, ⟨some ⟨6⟩, some ⟨7⟩, some ⟨8⟩⟩] := by
  decide +kernel

end Session

end FpgaHost
