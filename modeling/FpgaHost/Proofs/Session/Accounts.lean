import FpgaHost.Proofs.Session.Cycles
import FpgaHost.Proofs.Session.Measured

/-!
# Accounts of a cycle

Whatever the backend does, a whole cycle that succeeds accounts for the buffers of the session: the
load and the store stage have moved all the bytes that they had to move, and a stage was skipped
exactly if it had nothing to move (`accounts_of_invoke`). On a simulator a cycle does succeed if the
pipeline runs (`invoke_of_running`).
-/

namespace FpgaHost

open Steps Attempt

/-- What is measured of a cycle accounts for the buffers that were to be moved. -/
structure CycleMetrics.AccountsFor (measured : CycleMetrics) (m : BufferManager) : Prop where
  /-- All bytes were loaded. -/
  loaded : measured.load.bytes = m.loadBytes
  /-- The load stage was skipped if there was nothing to load. -/
  load_skipped : measured.load.times = none ↔ m.loadHandles = []
  /-- The compute stage is never skipped. -/
  computed : measured.compute.times ≠ none
  /-- All bytes were stored. -/
  stored : measured.store.bytes = m.storeBytes
  /-- The store stage was skipped if there was nothing to store. -/
  store_skipped : measured.store.times = none ↔ m.storeHandles = []

namespace Session

/-- A whole cycle that succeeds accounts for all buffers and is closed. -/
theorem accounts_of_invoke {σ : Type} [ComputeApi σ] {s t : Session σ} {measured : CycleMetrics}
    (ran : invoke s = .ok measured t) :
    measured.AccountsFor s.buffers ∧ t.pipeline.state = .idle := by
  obtain ⟨load, s₁, first, ran⟩ := Steps.bind_eq_ok_iff.1 ran
  obtain ⟨compute, s₂, second, ran⟩ := Steps.bind_eq_ok_iff.1 ran
  obtain ⟨store, s₃, third, ran⟩ := Steps.bind_eq_ok_iff.1 ran
  obtain ⟨⟨⟩, s₄, last, answered⟩ := Steps.bind_eq_ok_iff.1 ran
  obtain ⟨p₁, b₁, wrote, rfl⟩ := onPipeline_ok (x := Pipeline.write s.device.queue s.buffers) first
  obtain ⟨p₂, b₂, executed, rfl⟩ :=
    onPipeline_ok (x := Pipeline.execute s.device.queue s.device.kernel) second
  obtain ⟨p₃, b₃, stored, rfl⟩ := onPipeline_ok (x := Pipeline.read s.device.queue s.buffers) third
  obtain ⟨p₄, b₄, finished, rfl⟩ := onPipeline_ok (x := Pipeline.finish s.device.queue) last
  have asks : onBackend p₄.metrics _ = .ok measured t := answered
  obtain ⟨b₅, told, rfl⟩ := within_ok asks
  obtain ⟨rfl, nothingToLoad⟩ := Pipeline.write_ok wrote
  obtain rfl := Pipeline.execute_ok executed
  obtain ⟨rfl, nothingToStore⟩ := Pipeline.read_ok stored
  obtain rfl := Pipeline.finish_ok finished
  obtain ⟨u, v, loads, computes, stores⟩ := Pipeline.measures_of_metrics told
  obtain ⟨loadBytes, loadTimes⟩ := Pipeline.recorded_of_measure loads
  obtain ⟨-, computeTimes⟩ := Pipeline.recorded_of_measure computes
  obtain ⟨storeBytes, storeTimes⟩ := Pipeline.recorded_of_measure stores
  have computed : measured.compute.times ≠ none := fun skipped => by
    cases computeTimes.1 skipped
  exact ⟨⟨loadBytes, loadTimes.trans nothingToLoad, computed, storeBytes,
    storeTimes.trans nothingToStore⟩, rfl⟩

variable {d : BoundDevice} {m : BufferManager} {acts : Command → Memory → Memory}
  {memory : Memory} {s : Session Simulator}

/-- A whole cycle succeeds and is measured, if times are recorded. -/
theorem invoke_of_running (running : Running d m acts memory s) (reachable : s.Reachable)
    (ready : Stage.load.startsFrom.contains s.pipeline.state = true)
    (profiling : s.config.queue.profiling = true) :
    ∃ measured t, invoke s = .ok measured t ∧
      t.backend.memory = outcome d m acts Stage.all memory := by
  obtain ⟨t, ran, -, reached, past⟩ := run_wholeCycle running ready
  obtain ⟨later, told⟩ := run_ok reachable ran
  obtain ⟨measured, answers⟩ := measured_of_over later (told ▸ profiling) past
  refine ⟨measured, t, ?_, reached⟩
  rw [invoke_apply, ran]
  exact answers.metrics

end Session

end FpgaHost
