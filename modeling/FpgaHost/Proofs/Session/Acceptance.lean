import FpgaHost.Proofs.Session.Orderly

/-!
# Stages that are accepted

All that a stage needs is there for as long as a session is sound: its queue, its kernel, its
buffers and the events that its command waits for. So a stage fails only if it is out of order, and
then it changes nothing. In order its command is put into the queue, unless there is nothing to move
(`Entered`).

Main statement: `Session.Sound.submit_cases`.
-/

namespace FpgaHost

open Steps Attempt

/-- The size of all buffers that a stage moves. -/
def BufferManager.bytesIn (m : BufferManager) : Stage → Nat
  | .load => m.loadBytes
  | .compute => 0
  | .store => m.storeBytes

namespace Pipeline

/-- The event that the command of a stage waits for. -/
def awaited (p : Pipeline) : Stage → Option EventHandle
  | .load => none
  | .compute => p.event .load
  | .store => p.event .compute

/-- The pipeline on which a stage is submitted: a load stage gives back what is held before. -/
def cleared (p : Pipeline) (stage : Stage) : Pipeline := if stage = .load then p.emptied else p

/-- What is held before is given back when a load stage is submitted, and at no other stage. -/
def Clears (stage : Stage) (s t : Simulator) : Prop := if stage = .load then GaveBack s t else t = s

theorem Clears.gaveBack {stage : Stage} {s t : Simulator} (clears : Clears stage s t) :
    GaveBack s t := by
  rw [Clears] at clears
  split at clears
  · exact clears
  · exact clears ▸ .none

variable {d : BoundDevice} {m : BufferManager} {p : Pipeline} {s : Simulator}

/-- A command that waits for what the pipeline holds is accepted. -/
theorem Good.submit_ok (good : Good d m (p, s)) (command : Command) {event : Option EventHandle}
    (mine : ∀ e, event = some e → ∃ stage, p.event stage = some e) :
    ∃ q, s.queues.get? d.queue = some q ∧ Simulator.submit d.queue command event.toList s =
      .ok ⟨s.nextId⟩ (s.submitted d.queue q.properties.profiling command event.toList) := by
  obtain ⟨q, found⟩ := Table.contains_iff.1 good.1.queue
  refine ⟨q, found, Simulator.submit_of_live found command fun w mem => ?_⟩
  obtain ⟨stage, held⟩ := mine w (Option.mem_toList.1 mem)
  exact good.2.live stage w held

/-- A migration of buffers that are there is skipped if there are none, and accepted otherwise. -/
theorem Good.submitMigration_cases (good : Good d m (p, s)) {buffers : List BufferHandle}
    (there : ∀ b ∈ buffers, s.buffers.contains b = true) (direction : Direction)
    {event : Option EventHandle} (mine : ∀ e, event = some e → ∃ stage, p.event stage = some e) :
    submitMigration d.queue buffers direction event.toList s = .ok none s ∨
    ∃ q, s.queues.get? d.queue = some q ∧
      submitMigration d.queue buffers direction event.toList s = .ok (some ⟨s.nextId⟩)
        (s.submitted d.queue q.properties.profiling (.migrate buffers direction) event.toList) := by
  rw [submitMigration_apply]
  cases some : buffers.isEmpty with
  | true => exact .inl rfl
  | false =>
    obtain ⟨q, found, submitted⟩ := good.submit_ok (.migrate buffers direction) mine
    refine .inr ⟨q, found, ?_⟩
    rw [Simulator.enqueueMigrate_of_ready some there, submitted]
    rfl

end Pipeline

namespace Session

variable {s : Session Simulator} {stage : Stage}

/-- What becomes of a session that submits a stage in order. What is held before is cleared if need
be; then the command of the stage is put into the queue, unless there is nothing to move. -/
inductive Entered (s : Session Simulator) (stage : Stage) : Session Simulator → Prop
  /-- There is nothing to move. -/
  | skipped {b : Simulator} (clears : Pipeline.Clears stage s.backend b) (moves : stage ≠ .compute)
      (bytes : Nat) : Entered s stage { s with
        pipeline := (s.pipeline.cleared stage).submitted stage { event := none, bytes }
        backend := b }
  /-- Its command is put into the queue. -/
  | accepted {b : Simulator} {q : Queue} (clears : Pipeline.Clears stage s.backend b)
      (found : b.queues.get? s.device.queue = some q) : Entered s stage { s with
        pipeline := (s.pipeline.cleared stage).submitted stage
          { event := some ⟨b.nextId⟩, bytes := s.buffers.bytesIn stage }
        backend := b.submitted s.device.queue q.properties.profiling
          (commandOf s.device s.buffers stage) ((s.pipeline.cleared stage).awaited stage).toList }

theorem Sound.write_ok (sound : s.Sound)
    (ready : Stage.load.startsFrom.contains s.pipeline.state = true) :
    ∃ event t, write s = .ok event t ∧ s.Entered .load t := by
  obtain ⟨b, gave, wrote⟩ := Pipeline.write_of_held sound.2 s.buffers ready
  have emptied : Pipeline.Good s.device s.buffers (s.pipeline.emptied, b) :=
    ⟨sound.1.gaveBack gave, Pipeline.held_of_none s.pipeline.event_emptied s.device.queue b⟩
  have there : ∀ a ∈ s.buffers.loadHandles, b.buffers.contains a = true :=
    emptied.1.buffers.members s.buffers.load
  have clears : Pipeline.Clears .load s.backend b := gave
  have unheld : ∀ e, (none : Option EventHandle) = some e → ∃ stage,
      s.pipeline.emptied.event stage = some e := nofun
  rcases emptied.submitMigration_cases there .toDevice unheld with
    skipped | ⟨q, found, accepted⟩
  · rw [Option.toList_none] at skipped
    rw [skipped] at wrote
    exact ⟨none, _, onPipeline_of_ok wrote, .skipped clears (by decide) s.buffers.loadBytes⟩
  · rw [Option.toList_none] at accepted
    rw [accepted] at wrote
    exact ⟨_, _, onPipeline_of_ok wrote, .accepted clears found⟩

theorem Sound.execute_ok (sound : s.Sound) (ready : s.pipeline.state = .loaded) :
    ∃ event t, execute s = .ok event t ∧ s.Entered .compute t := by
  have held : ∀ e, s.pipeline.load.event = some e → ∃ stage, s.pipeline.event stage = some e :=
    fun e held => ⟨.load, held⟩
  obtain ⟨q, found, accepted⟩ := sound.submit_ok (.task s.device.kernel) held
  have executed := Pipeline.execute_apply s.device.queue s.device.kernel s.pipeline s.backend
  rw [ready, Simulator.enqueueTask_of_ready sound.1.kernel, accepted] at executed
  exact ⟨_, _, onPipeline_of_ok executed, .accepted rfl found⟩

theorem Sound.read_ok (sound : s.Sound) (ready : s.pipeline.state = .computed) :
    ∃ event t, read s = .ok event t ∧ s.Entered .store t := by
  have there : ∀ b ∈ s.buffers.storeHandles, s.backend.buffers.contains b = true :=
    sound.1.buffers.members s.buffers.store
  have stored := Pipeline.read_eq s.device.queue s.buffers s.pipeline s.backend
  rw [ready] at stored
  have clears : Pipeline.Clears .store s.backend s.backend := rfl
  have held : ∀ e, s.pipeline.compute.event = some e → ∃ stage, s.pipeline.event stage = some e :=
    fun e held => ⟨.compute, held⟩
  rcases sound.submitMigration_cases there .toHost held with skipped | ⟨q, found, accepted⟩
  · rw [skipped] at stored
    exact ⟨none, _, onPipeline_of_ok stored, .skipped clears (by decide) s.buffers.storeBytes⟩
  · rw [accepted] at stored
    exact ⟨_, _, onPipeline_of_ok stored, .accepted clears found⟩

/-- A stage that is in order is submitted. -/
theorem Sound.enters (sound : s.Sound) (ready : stage.startsFrom.contains s.pipeline.state = true) :
    ∃ t, (Step.submit stage).operation.perform s = .ok () t ∧ s.Entered stage t := by
  cases stage with
  | load =>
    obtain ⟨event, t, wrote, entered⟩ := sound.write_ok ready
    exact ⟨t, discard_of_ok wrote, entered⟩
  | compute =>
    have loaded : s.pipeline.state = .loaded := by simpa [Stage.startsFrom] using ready
    obtain ⟨event, t, executed, entered⟩ := sound.execute_ok loaded
    exact ⟨t, discard_of_ok executed, entered⟩
  | store =>
    have computed : s.pipeline.state = .computed := by simpa [Stage.startsFrom] using ready
    obtain ⟨event, t, stored, entered⟩ := sound.read_ok computed
    exact ⟨t, discard_of_ok stored, entered⟩

/-- A stage is submitted, or it is out of order and changes nothing. -/
theorem Sound.submit_cases (sound : s.Sound) (stage : Stage) :
    stateOf ((Step.submit stage).operation.perform s) = s ∨
      s.Entered stage (stateOf ((Step.submit stage).operation.perform s)) := by
  cases ready : stage.startsFrom.contains s.pipeline.state with
  | true =>
    obtain ⟨t, submitted, entered⟩ := sound.enters ready
    rw [submitted]
    exact .inr entered
  | false =>
    left
    rw [perform_of_late ready]
    rfl

end Session

end FpgaHost
