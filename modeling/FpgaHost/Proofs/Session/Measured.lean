import FpgaHost.Proofs.Session.Reachable
import FpgaHost.Proofs.Session.Running

/-!
# Cycles that are measured

What can be asked about the stages of a cycle is answered as soon as the events that the pipeline
holds have ended, provided that the queue records times (`measured_of_over`). The answers agree with
one another, whether they are asked for one by one or all at once, and asking changes nothing.
-/

namespace FpgaHost

open Steps Attempt

/-! ### Events -/

namespace Simulator

variable {s t : Simulator} {event : EventHandle} {times : Timestamps}

/-- Every instant of an event is answered. -/
def Timed (s : Simulator) (event : EventHandle) (times : Timestamps) : Prop :=
  ∀ instant, timeOf event instant s = .ok (times.time instant) s

/-- The instants of an event that has ended are answered if its queue records times. -/
theorem timed_of_ended (profiled : s.profilingOf event = some true) (ended : s.Ended event) :
    ∃ times, s.Timed event times := by
  obtain ⟨r, live, profiling⟩ := Option.map_eq_some_iff.1 profiled
  have found := (Option.filter_eq_some_iff.1 live).1
  obtain ⟨x, ran⟩ := Option.isSome_iff_exists.1 ended
  rw [execution?, found, Option.bind_some] at ran
  refine ⟨⟨r.queued, x.submitted, x.started, x.ended⟩, fun instant => ?_⟩
  have call : ComputeApi.call (.profilingInfo event instant) s = profilingInfo event instant s := rfl
  rw [timeOf, ask_apply, call, profilingInfo_eq, live]
  dsimp only
  rw [profiling]
  cases instant <;> simp [EventRecord.instant?, ran, Timestamps.time]

theorem timesOf_of_timed (timed : s.Timed event times) : timesOf event s = .ok times s := by
  rw [timesOf, bind_of_ok (timed .queued), bind_of_ok (timed .submitted),
    bind_of_ok (timed .started), bind_of_ok (timed .ended)]
  rfl

theorem elapsedOf_of_timed (timed : s.Timed event times) :
    elapsedOf (some event) s = .ok times.elapsed s := by
  rw [elapsedOf, bind_of_ok (timed .started), bind_of_ok (timed .ended)]
  rfl

/-- An instant that is answered is that of a record, and asking changes nothing. -/
theorem timeOf_ok {instant : Instant} {time : Nat} (told : timeOf event instant s = .ok time t) :
    t = s ∧ ∃ r, s.events.get? event = some r ∧ r.instant? instant = some time := by
  have call : ComputeApi.call (.profilingInfo event instant) s = profilingInfo event instant s := rfl
  rw [timeOf, ask_apply, call, profilingInfo_eq] at told
  cases live : s.liveEvent? event with
  | none =>
    rw [live] at told
    contradiction
  | some r =>
    rw [live] at told
    dsimp only at told
    cases profiling : r.profiling with
    | false =>
      rw [profiling] at told
      contradiction
    | true =>
      rw [profiling] at told
      cases known : r.instant? instant with
      | none =>
        rw [known] at told
        contradiction
      | some n =>
        rw [known] at told
        cases told
        exact ⟨rfl, r, (Option.filter_eq_some_iff.1 live).1, known⟩

/-- Times that are answered are those of an execution. -/
theorem timesOf_ok (told : timesOf event s = .ok times t) :
    t = s ∧ ∃ x, s.execution? event = some x ∧ times.started = x.started ∧ times.ended = x.ended := by
  obtain ⟨queued, u, asked, later⟩ := Steps.bind_eq_ok_iff.1 told
  obtain ⟨rfl, -⟩ := timeOf_ok asked
  obtain ⟨submitted, u, asked, rest⟩ := Steps.bind_eq_ok_iff.1 later
  obtain ⟨rfl, -⟩ := timeOf_ok asked
  obtain ⟨started, u, asked, last⟩ := Steps.bind_eq_ok_iff.1 rest
  obtain ⟨rfl, r, found, began⟩ := timeOf_ok asked
  obtain ⟨ended, u, asked, answer⟩ := Steps.bind_eq_ok_iff.1 last
  obtain ⟨rfl, q, same, past⟩ := timeOf_ok asked
  obtain rfl := Option.some.inj (found.symm.trans same)
  cases answer
  obtain ⟨x, ran, rfl⟩ := Option.map_eq_some_iff.1 began
  obtain ⟨y, again, rfl⟩ := Option.map_eq_some_iff.1 past
  obtain rfl := Option.some.inj (ran.symm.trans again)
  refine ⟨rfl, x, ?_, rfl, rfl⟩
  rw [execution?, found, Option.bind_some, ran]

end Simulator

/-! ### Stages -/

namespace Pipeline

variable {p : Pipeline} {s t : Simulator} {stage : Stage}

/-- What is asked about a stage is answered, and the answers agree. -/
structure Reports (p : Pipeline) (s : Simulator) (stage : Stage) (measured : StageMetrics) :
    Prop where
  /-- What can be measured of it. -/
  measure : p.measure stage s = .ok measured s
  /-- How long it took. -/
  elapsed : p.elapsed stage s = .ok measured.elapsed s
  /-- How fast it was. -/
  throughput : p.throughput stage s = .ok measured.throughput s

/-- A stage that was skipped took no time. -/
theorem reports_of_skipped (skipped : p.event stage = none) :
    p.Reports s stage { stage, bytes := p.bytes stage, times := none } := by
  have elapsed : p.elapsed stage s = .ok 0 s := by
    rw [Pipeline.elapsed, skipped]
    rfl
  refine ⟨?_, elapsed, ?_⟩
  · rw [measure, timestamps, skipped]
    rfl
  · rw [Pipeline.throughput, bind_of_ok elapsed]
    rfl

/-- A stage whose event answers its instants is measured by them. -/
theorem reports_of_timed {event : EventHandle} {times : Timestamps}
    (there : p.event stage = some event) (timed : s.Timed event times) :
    p.Reports s stage { stage, bytes := p.bytes stage, times := some times } := by
  have elapsed : p.elapsed stage s = .ok times.elapsed s := by
    rw [Pipeline.elapsed, there]
    exact Simulator.elapsedOf_of_timed timed
  have stamped : p.timestamps stage s = .ok (some times) s := by
    rw [timestamps, there]
    dsimp only
    rw [bind_of_ok (Simulator.timesOf_of_timed timed)]
    rfl
  refine ⟨?_, elapsed, ?_⟩
  · rw [measure, bind_of_ok stamped]
    rfl
  · rw [Pipeline.throughput, bind_of_ok elapsed]
    rfl

theorem reports_of_ended
    (ended : ∀ event, p.event stage = some event → s.profilingOf event = some true ∧ s.Ended event) :
    ∃ measured, p.Reports s stage measured := by
  cases there : p.event stage with
  | none => exact ⟨_, reports_of_skipped there⟩
  | some event =>
    obtain ⟨times, timed⟩ := Simulator.timed_of_ended (ended event there).1 (ended event there).2
    exact ⟨_, reports_of_timed there timed⟩

/-- What is measured of a stage that was not skipped is the execution of its event. -/
theorem measure_ok {measured : StageMetrics} (told : p.measure stage s = .ok measured t) :
    t = s ∧ ∀ times, measured.times = some times → ∃ event x, p.event stage = some event ∧
      s.execution? event = some x ∧ times.started = x.started ∧ times.ended = x.ended := by
  obtain ⟨stamps, u, asked, told⟩ := Steps.bind_eq_ok_iff.1 told
  cases told
  rw [timestamps] at asked
  cases there : p.event stage with
  | none =>
    rw [there] at asked
    cases asked
    exact ⟨rfl, fun times told => by contradiction⟩
  | some event =>
    rw [there] at asked
    obtain ⟨times, u, asked, told⟩ := Steps.bind_eq_ok_iff.1 asked
    cases told
    obtain ⟨rfl, x, ran, started, ended⟩ := Simulator.timesOf_ok asked
    refine ⟨rfl, fun _ told => ?_⟩
    cases told
    exact ⟨event, x, rfl, ran, started, ended⟩

end Pipeline

/-! ### Cycles -/

/-- What was measured of a stage of a cycle. -/
def CycleMetrics.of (m : CycleMetrics) : Stage → StageMetrics
  | .load => m.load
  | .compute => m.compute
  | .store => m.store

section

variable {σ : Type} [ComputeApi σ] {p : Pipeline} {s t : σ}

/-- A stage is measured as it was recorded, with times unless it was skipped. -/
theorem Pipeline.recorded_of_measure {stage : Stage} {measured : StageMetrics}
    (told : p.measure stage s = .ok measured t) :
    measured.bytes = p.bytes stage ∧ (measured.times = none ↔ p.event stage = none) := by
  obtain ⟨stamps, u, asked, told⟩ := Steps.bind_eq_ok_iff.1 told
  cases told
  rw [timestamps] at asked
  refine ⟨rfl, ?_⟩
  cases there : p.event stage with
  | none =>
    rw [there] at asked
    cases asked
    simp
  | some event =>
    rw [there] at asked
    obtain ⟨times, v, -, told⟩ := Steps.bind_eq_ok_iff.1 asked
    cases told
    simp

/-- A cycle is measured stage by stage. -/
theorem Pipeline.measures_of_metrics {m : CycleMetrics} (told : p.metrics s = .ok m t) :
    ∃ u v, p.measure .load s = .ok m.load u ∧ p.measure .compute u = .ok m.compute v ∧
      p.measure .store v = .ok m.store t := by
  obtain ⟨load, u, loads, later⟩ := Steps.bind_eq_ok_iff.1 told
  obtain ⟨compute, v, computes, rest⟩ := Steps.bind_eq_ok_iff.1 later
  obtain ⟨store, w, stores, answer⟩ := Steps.bind_eq_ok_iff.1 rest
  cases answer
  exact ⟨u, v, loads, computes, stores⟩

/-- Its stages are measured as they were recorded. -/
theorem Pipeline.recorded_of_metrics {m : CycleMetrics} (told : p.metrics s = .ok m t)
    (stage : Stage) : (m.of stage).bytes = p.bytes stage ∧
      ((m.of stage).times = none ↔ p.event stage = none) := by
  obtain ⟨u, v, load, compute, store⟩ := measures_of_metrics told
  cases stage with
  | load => exact recorded_of_measure load
  | compute => exact recorded_of_measure compute
  | store => exact recorded_of_measure store

end

/-- Measuring a cycle leaves the simulator as it is. -/
theorem Pipeline.state_of_metrics {p : Pipeline} {s t : Simulator} {m : CycleMetrics}
    (told : p.metrics s = .ok m t) : t = s := by
  obtain ⟨u, v, load, compute, store⟩ := measures_of_metrics told
  obtain ⟨rfl, -⟩ := measure_ok load
  obtain ⟨rfl, -⟩ := measure_ok compute
  exact (measure_ok store).1

/-- What is measured of a cycle are the executions of its events. -/
theorem Pipeline.metrics_ok {p : Pipeline} {s t : Simulator} {m : CycleMetrics}
    (told : p.metrics s = .ok m t) (stage : Stage) {times : Timestamps}
    (ran : (m.of stage).times = some times) : ∃ event x, p.event stage = some event ∧
      s.execution? event = some x ∧ times.started = x.started ∧ times.ended = x.ended := by
  obtain ⟨u, v, load, compute, store⟩ := measures_of_metrics told
  obtain ⟨rfl, loads⟩ := measure_ok load
  obtain ⟨rfl, computes⟩ := measure_ok compute
  obtain ⟨rfl, stores⟩ := measure_ok store
  cases stage with
  | load => exact loads times ran
  | compute => exact computes times ran
  | store => exact stores times ran

namespace Session

variable {s : Session Simulator}

/-- What is asked about the latest cycle is answered, the answers agree, and nothing changes. -/
structure Measured (s : Session Simulator) (measured : CycleMetrics) : Prop where
  /-- What can be measured of the cycle. -/
  metrics : metrics s = .ok measured s
  /-- How long every stage took. -/
  elapsed : ∀ stage, elapsed stage s = .ok (measured.of stage).elapsed s
  /-- How fast every stage was. -/
  throughput : ∀ stage, throughput stage s = .ok (measured.of stage).throughput s

theorem onBackend_of_ok {α : Type} {x : Attempt Simulator α} {a : α}
    (h : x s.backend = .ok a s.backend) : onBackend x s = .ok a s := by
  rw [onBackend, within_apply, h]

/-- The events that a session holds record times if it was told so. -/
theorem Reachable.profilingOf (reachable : s.Reachable) {stage : Stage} {event : EventHandle}
    (held : s.pipeline.event stage = some event) :
    s.backend.profilingOf event = some s.config.queue.profiling := by
  rw [(sound_of_reachable reachable).2.profiled stage event held,
    (identified_of_reachable reachable).queue, Option.map_some]

/-- Once the events that are held have ended the cycle can be measured, if the session was told to
record times. -/
theorem measured_of_over (reachable : s.Reachable) (profiling : s.config.queue.profiling = true)
    (past : s.pipeline.Over s.backend) : ∃ measured, s.Measured measured := by
  have reports : ∀ stage, ∃ measured, s.pipeline.Reports s.backend stage measured := by
    intro stage
    refine Pipeline.reports_of_ended fun event held => ⟨?_, past stage event held⟩
    rw [reachable.profilingOf held, profiling]
  obtain ⟨load, loads⟩ := reports .load
  obtain ⟨compute, computes⟩ := reports .compute
  obtain ⟨store, stores⟩ := reports .store
  have every : ∀ stage, s.pipeline.Reports s.backend stage
      ((CycleMetrics.mk load compute store).of stage) := by
    rintro (_ | _ | _)
    · exact loads
    · exact computes
    · exact stores
  refine ⟨⟨load, compute, store⟩, onBackend_of_ok ?_, fun stage => onBackend_of_ok (every stage).elapsed,
    fun stage => onBackend_of_ok (every stage).throughput⟩
  rw [Pipeline.metrics, bind_of_ok loads.measure, bind_of_ok computes.measure,
    bind_of_ok stores.measure]
  rfl

end Session

end FpgaHost
