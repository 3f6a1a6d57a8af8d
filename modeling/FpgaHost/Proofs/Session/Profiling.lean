import FpgaHost.Proofs.Device.Ledger
import FpgaHost.Proofs.Session.Failures

/-!
# Two ways to ask for times

How long the stages of a cycle took can be asked for stage by stage, which queries two instants of
every event, or for the whole cycle at once, which queries all four. A backend whose answers repeat
(`Repeats`) gives the same times either way, whatever they are: they need not make sense. The span
of the cycle is from the least start to the greatest end, so no stage took longer.

The simulator knows the instants of an event all together, so there the cycle can be measured as
soon as every stage can.

Main statement: `profiling_paths_agree`.
-/

namespace FpgaHost

open Steps Attempt

/-! ### Answers that repeat -/

section

variable {σ : Type} [ComputeApi σ]

/-- What a backend answers when it is asked for the time of an instant. -/
def told (s : σ) (event : EventHandle) (instant : Instant) : Except Status Nat :=
  match ComputeApi.call (.profilingInfo event instant) s with
  | .ok time _ => .ok time
  | .error status _ => .error status

/-- The states that a backend can come to by being asked for times. -/
inductive Asked (s : σ) : σ → Prop
  /-- It was not asked yet. -/
  | nothing : Asked s s
  /-- It was asked once more. -/
  | query {t : σ} (asked : Asked s t) (event : EventHandle) (instant : Instant) :
      Asked s ((Request.profilingInfo event instant).after t)

/-- A query is answered in the same way however often times are asked for. -/
def Repeats (s : σ) : Prop :=
  ∀ t, Asked s t → ∀ event instant, told t event instant = told s event instant

variable {s t u : σ} {event : EventHandle} {instant : Instant} {time : Nat} {times : Timestamps}
  {p : Pipeline} {stage : Stage}

theorem timeOf_eq (event : EventHandle) (instant : Instant) (s : σ) :
    timeOf event instant s =
      match told s event instant with
      | .ok time => .ok time ((Request.profilingInfo event instant).after s)
      | .error status => .error (.call .profilingInfo status)
          ((Request.profilingInfo event instant).after s) := by
  rw [timeOf, ask_apply, told, Request.after]
  cases ComputeApi.call (.profilingInfo event instant) s <;> rfl

/-- A time that was told once is told whenever it is asked for. -/
theorem timeOf_of_told (repeats : Repeats s) (told : told s event instant = .ok time)
    (asked : Asked s t) : ∃ u, timeOf event instant t = .ok time u ∧ Asked s u := by
  refine ⟨_, ?_, asked.query event instant⟩
  rw [timeOf_eq, repeats t asked, told]

theorem told_of_timeOf (repeats : Repeats s) (asked : Asked s t)
    (answered : timeOf event instant t = .ok time u) :
    told s event instant = .ok time ∧ Asked s u := by
  rw [timeOf_eq, repeats t asked] at answered
  cases known : told s event instant with
  | error status =>
    rw [known] at answered
    contradiction
  | ok n =>
    rw [known] at answered
    cases answered
    exact ⟨rfl, asked.query event instant⟩

theorem told_of_timesOf (repeats : Repeats s) (asked : Asked s t)
    (answered : timesOf event t = .ok times u) :
    (∀ instant, told s event instant = .ok (times.time instant)) ∧ Asked s u := by
  obtain ⟨queued, v, first, later⟩ := Steps.bind_eq_ok_iff.1 answered
  obtain ⟨queued', asked⟩ := told_of_timeOf repeats asked first
  obtain ⟨submitted, w, second, rest⟩ := Steps.bind_eq_ok_iff.1 later
  obtain ⟨submitted', asked⟩ := told_of_timeOf repeats asked second
  obtain ⟨started, x, third, last⟩ := Steps.bind_eq_ok_iff.1 rest
  obtain ⟨started', asked⟩ := told_of_timeOf repeats asked third
  obtain ⟨ended, y, fourth, answer⟩ := Steps.bind_eq_ok_iff.1 last
  obtain ⟨ended', asked⟩ := told_of_timeOf repeats asked fourth
  cases answer
  refine ⟨?_, asked⟩
  rintro (_ | _ | _ | _)
  · exact queued'
  · exact submitted'
  · exact started'
  · exact ended'

theorem elapsedOf_of_told (repeats : Repeats s)
    (told : ∀ instant, told s event instant = .ok (times.time instant)) (asked : Asked s t) :
    ∃ u, elapsedOf (some event) t = .ok times.elapsed u := by
  obtain ⟨v, started, asked⟩ := timeOf_of_told repeats (told .started) asked
  obtain ⟨w, ended, -⟩ := timeOf_of_told repeats (told .ended) asked
  refine ⟨w, ?_⟩
  rw [elapsedOf, bind_of_ok started, bind_of_ok ended]
  rfl

/-! ### Stages and cycles -/

/-- A stage that was measured is told to have taken as long whenever it is asked for. -/
theorem elapsed_of_measure (repeats : Repeats s) (asked : Asked s t) {measured : StageMetrics}
    (answered : p.measure stage t = .ok measured u) :
    Asked s u ∧ ∀ v, Asked s v → ∃ w, p.elapsed stage v = .ok measured.elapsed w := by
  obtain ⟨stamps, v, stamped, answer⟩ := Steps.bind_eq_ok_iff.1 answered
  cases answer
  rw [Pipeline.timestamps] at stamped
  simp only [Pipeline.elapsed]
  cases there : p.event stage with
  | none =>
    rw [there] at stamped
    cases stamped
    exact ⟨asked, fun v _ => ⟨v, rfl⟩⟩
  | some event =>
    rw [there] at stamped
    obtain ⟨times, w, answered, answer⟩ := Steps.bind_eq_ok_iff.1 stamped
    cases answer
    obtain ⟨told, asked⟩ := told_of_timesOf repeats asked answered
    exact ⟨asked, fun v asked => elapsedOf_of_told repeats told asked⟩

/-- No stage took longer than the whole cycle. -/
theorem CycleMetrics.elapsed_le_span (m : CycleMetrics) (stage : Stage) :
    (m.of stage).elapsed ≤ m.span := by
  obtain ⟨⟨_, _, load⟩, ⟨_, _, compute⟩, ⟨_, _, store⟩⟩ := m
  cases stage <;> cases load <;> cases compute <;> cases store <;>
    simp [of, span, stages, StageMetrics.elapsed, Timestamps.elapsed] <;> omega

/-- If no stage ran the cycle took no time. -/
theorem CycleMetrics.span_of_skipped {m : CycleMetrics}
    (skipped : ∀ stage, (m.of stage).times = none) : m.span = 0 := by
  have load : m.load.times = none := skipped .load
  have compute : m.compute.times = none := skipped .compute
  have store : m.store.times = none := skipped .store
  simp [span, stages, load, compute, store]

/-- What was measured of a cycle agrees with what is told of its stages one by one. -/
structure CycleMetrics.Agrees (m : CycleMetrics) (p : Pipeline) (s : σ) : Prop where
  /-- Every stage took as long as is told of it, now and after any more queries. -/
  elapsed : ∀ stage t, Asked s t → ∃ u, p.elapsed stage t = .ok (m.of stage).elapsed u
  /-- Every stage moved as many bytes as were recorded. -/
  bytes : ∀ stage, (m.of stage).bytes = p.bytes stage
  /-- A stage without an event took no time. -/
  skipped : ∀ stage, p.event stage = none → (m.of stage).elapsed = 0
  /-- No stage took longer than the cycle. -/
  within : ∀ stage, (m.of stage).elapsed ≤ m.span
  /-- If no stage ran the cycle took no time. -/
  nothing : (∀ stage, p.event stage = none) → m.span = 0

theorem agrees_of_metrics (repeats : Repeats s) {m : CycleMetrics}
    (answered : p.metrics s = .ok m t) : m.Agrees p s := by
  obtain ⟨v, w, load, compute, store⟩ := Pipeline.measures_of_metrics answered
  obtain ⟨asked, loads⟩ := elapsed_of_measure repeats .nothing load
  obtain ⟨asked, computes⟩ := elapsed_of_measure repeats asked compute
  obtain ⟨-, stores⟩ := elapsed_of_measure repeats asked store
  have recorded := Pipeline.recorded_of_metrics answered
  refine ⟨?_, fun stage => (recorded stage).1, fun stage skipped => ?_, m.elapsed_le_span,
    fun skipped => CycleMetrics.span_of_skipped fun stage => (recorded stage).2.2 (skipped stage)⟩
  · rintro (_ | _ | _)
    · exact loads
    · exact computes
    · exact stores
  · rw [StageMetrics.elapsed, (recorded stage).2.2 skipped]

end

/-! ### The simulator -/

namespace Simulator

variable {s t : Simulator} {p : Pipeline} {event : EventHandle}

theorem after_profilingInfo (event : EventHandle) (instant : Instant) (s : Simulator) :
    (Request.profilingInfo event instant).after s = s := by
  have call : ComputeApi.call (.profilingInfo event instant) s = profilingInfo event instant s := rfl
  rw [Request.after, call, profilingInfo_eq]
  repeat' split
  all_goals rfl

theorem eq_of_asked (asked : Asked s t) : t = s := by
  induction asked with
  | nothing => rfl
  | query _ event instant ih => rw [after_profilingInfo, ih]

theorem repeats (s : Simulator) : Repeats s := by
  intro t asked event instant
  rw [eq_of_asked asked]

/-- The simulator knows all instants of an event as soon as it can tell how long its command ran. -/
theorem timed_of_elapsedOf {n : Nat} (answered : elapsedOf (some event) s = .ok n t) :
    ∃ times, s.Timed event times := by
  obtain ⟨started, u, asked, later⟩ := Steps.bind_eq_ok_iff.1 answered
  obtain ⟨-, r, live, profiling, began⟩ := timeOf_eq_ok_iff.1 asked
  obtain ⟨x, ran, -⟩ := Option.map_eq_some_iff.1 began
  refine timed_of_ended ?_ ?_
  · rw [profilingOf, live, Option.map_some, profiling]
  · rw [Ended, execution?, (Option.filter_eq_some_iff.1 live).1, Option.bind_some, ran]
    rfl

theorem reports_of_elapsed {stage : Stage} {n : Nat} (answered : p.elapsed stage s = .ok n t) :
    ∃ measured, p.Reports s stage measured := by
  rw [Pipeline.elapsed] at answered
  cases there : p.event stage with
  | none => exact ⟨_, Pipeline.reports_of_skipped there⟩
  | some event =>
    rw [there] at answered
    obtain ⟨times, timed⟩ := timed_of_elapsedOf answered
    exact ⟨_, Pipeline.reports_of_timed there timed⟩

theorem metrics_iff_elapsed (p : Pipeline) (s : Simulator) :
    (∃ m t, p.metrics s = .ok m t) ↔ ∀ stage, ∃ n t, p.elapsed stage s = .ok n t := by
  constructor
  · rintro ⟨m, t, answered⟩ stage
    obtain ⟨u, elapsed⟩ := (agrees_of_metrics s.repeats answered).elapsed stage s .nothing
    exact ⟨_, u, elapsed⟩
  · intro every
    have reports : ∀ stage, ∃ measured, p.Reports s stage measured := by
      intro stage
      obtain ⟨n, t, answered⟩ := every stage
      exact reports_of_elapsed answered
    obtain ⟨load, loads⟩ := reports .load
    obtain ⟨compute, computes⟩ := reports .compute
    obtain ⟨store, stores⟩ := reports .store
    refine ⟨⟨load, compute, store⟩, s, ?_⟩
    rw [Pipeline.metrics, bind_of_ok loads.measure, bind_of_ok computes.measure,
      bind_of_ok stores.measure]
    rfl

end Simulator

/-! ### Wrappers -/

namespace Instrumented

variable {σ : Type} [ComputeApi σ] {s t : Instrumented σ}

/-- A wrapper without faults tells its own times, and those of its backend for other events. -/
theorem outcome_profilingInfo (faultless : s.instruments.faults = []) (event : EventHandle)
    (instant : Instant) : s.outcome (.profilingInfo event instant) =
      match s.instruments.times.get? event with
      | some times => (.ok (times.time instant), s.inner)
      | none => (told s.inner event instant, (Request.profilingInfo event instant).after s.inner) := by
  have fault : s.fault? (Request.profilingInfo event instant).method = none := by
    rw [fault?, faultless]
    rfl
  rw [outcome, fault, override?]
  cases s.instruments.times.get? event with
  | some times => rfl
  | none =>
    rw [Option.map_none]
    dsimp only
    rw [forward, told, Request.after]
    cases ComputeApi.call (.profilingInfo event instant) s.inner <;> rfl

theorem inner_of_asked (faultless : s.instruments.faults = []) (asked : Asked s t) :
    Asked s.inner t.inner ∧ t.instruments = s.instruments := by
  induction asked with
  | nothing => exact ⟨.nothing, rfl⟩
  | @query t _ event instant ih =>
    obtain ⟨asked, same⟩ := ih
    have outcome := outcome_profilingInfo (s := t) (same ▸ faultless) event instant
    have after : ((Request.profilingInfo event instant).after t).inner =
        (t.outcome (.profilingInfo event instant)).2 ∧
        ((Request.profilingInfo event instant).after t).instruments = t.instruments := by
      rw [Request.after, call_eq]
      cases (t.outcome (.profilingInfo event instant)).1 <;> exact ⟨rfl, rfl⟩
    refine ⟨?_, after.2.trans same⟩
    rw [after.1, outcome]
    cases t.instruments.times.get? event with
    | some times => exact asked
    | none => exact asked.query event instant

/-- A wrapper without faults repeats its answers if its backend does. -/
theorem repeats (faultless : s.instruments.faults = []) (inner : Repeats s.inner) : Repeats s := by
  intro t asked event instant
  obtain ⟨asked, same⟩ := inner_of_asked faultless asked
  have answer : ∀ u : Instrumented σ, told u event instant =
      (u.outcome (.profilingInfo event instant)).1 := by
    intro u
    rw [told, call_eq]
    dsimp only
    cases (u.outcome (.profilingInfo event instant)).1 <;> rfl
  rw [answer, answer, outcome_profilingInfo (same ▸ faultless), outcome_profilingInfo faultless, same]
  cases s.instruments.times.get? event with
  | some times => rfl
  | none => exact inner t.inner asked event instant

end Instrumented

/-- What is measured of a cycle at once agrees with what is told of its stages one by one, on every
backend whose answers repeat and whatever times or failures these are. On the simulator a cycle can
be measured exactly if every stage can be asked how long it took. -/
theorem profiling_paths_agree (p : Pipeline) :
    (∀ {σ : Type} [ComputeApi σ] (s : σ), Repeats s → ∀ m t, p.metrics s = .ok m t →
      m.Agrees p s) ∧
    ∀ s : Simulator, (∃ m t, p.metrics s = .ok m t) ↔
      ∀ stage, ∃ n t, p.elapsed stage s = .ok n t :=
  ⟨fun _ repeats _ _ answered => agrees_of_metrics repeats answered, Simulator.metrics_iff_elapsed p⟩

/-- Of one command the end is told to lie before the start. -/
theorem profiling_paths_agree_backwards :
    let times : Table EventHandle Timestamps :=
      Table.insert (Table.insert .empty ⟨1⟩ ⟨0, 0, 900, 300⟩) ⟨2⟩ ⟨0, 0, 100, 700⟩
    let s : Instrumented Simulator := { inner := {}, instruments := { times } }
    let p : Pipeline := { load := ⟨some ⟨1⟩, 64⟩, compute := ⟨some ⟨2⟩, 0⟩ }
    ∃ m t, p.metrics s = .ok m t ∧ m.span = 600 ∧ m.Agrees p s := by
  intro times s p
  have repeats : Repeats s := Instrumented.repeats rfl (Simulator.repeats {})
  exact ⟨_, _, rfl, rfl, (profiling_paths_agree p).1 s repeats _ _ rfl⟩

end FpgaHost
