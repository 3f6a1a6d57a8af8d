import FpgaHost.Proofs.Session.Reachable
import FpgaHost.Proofs.Session.Running
import FpgaHost.Proofs.Session.Start

/-!
# Cycles that overlap

A schedule submits stages in the order of cycles and may finish anywhere in between. Commands are
carried out late, events are given back while their commands are still pending, and a finish may
fall between the stages of a cycle; yet the memory that a schedule leaves depends only on the stages
it submits (`run_finish`). So cycles that overlap leave the same memory, and the same runs of host
kernels, as cycles that are run one after the other (`overlapped_eq_sequential`).
-/

namespace FpgaHost.Session

open Steps Attempt

variable {d : BoundDevice} {m : BufferManager} {acts : Command → Memory → Memory}
  {memory : Memory} {s : Session Simulator}

/-! ### Schedules -/

namespace Step

/-- The stage that a step submits. -/
def stage? : Step → Option Stage
  | submit stage => some stage
  | finish => none

end Step

/-- The stages that a schedule submits, in order. -/
def stagesOf (steps : List Step) : List Stage := steps.filterMap Step.stage?

/-- The stages of some complete cycles. -/
def cycles (n : Nat) : List Stage := (List.replicate n Stage.all).flatten

/-- Some cycles one after the other, each finished before the next begins. -/
def sequential (n : Nat) : List Step :=
  (List.replicate n (Stage.all.map .submit ++ [.finish])).flatten

theorem stagesOf_append (first rest : List Step) :
    stagesOf (first ++ rest) = stagesOf first ++ stagesOf rest := List.filterMap_append

theorem stagesOf_sequential (n : Nat) : stagesOf (sequential n) = cycles n := by
  induction n with
  | zero => rfl
  | succ n ih =>
    rw [sequential, List.replicate_succ, List.flatten_cons, stagesOf_append, ← sequential, ih]
    rfl

/-- Stages that may be submitted one after the other from a state. -/
def Follows : PipelineState → List Stage → Prop
  | _, [] => True
  | state, stage :: rest => stage.startsFrom.contains state = true ∧ Follows stage.leadsTo rest

theorem follows_finished {state : PipelineState} {stages : List Stage}
    (follows : Follows state stages) : Follows state.finished stages := by
  cases stages with
  | nil => trivial
  | cons stage rest =>
    refine ⟨?_, follows.2⟩
    have first := follows.1
    revert first
    cases state <;> cases stage <;> decide

/-- Complete cycles may be submitted from where the load stage may. -/
theorem follows_cycles {state : PipelineState} (ready : Stage.load.startsFrom.contains state = true)
    (n : Nat) : Follows state (cycles n) := by
  induction n generalizing state with
  | zero => trivial
  | succ n ih => exact ⟨ready, rfl, rfl, ih rfl⟩

/-! ### Sessions with work under way -/

/-- The command of a stage. -/
def commandOf (d : BoundDevice) (m : BufferManager) : Stage → Command
  | .load => .migrate m.loadHandles .toDevice
  | .compute => .task d.kernel
  | .store => .migrate m.storeHandles .toHost

/-- What stages do to a memory, one after the other. -/
def outcome (d : BoundDevice) (m : BufferManager) (acts : Command → Memory → Memory)
    (stages : List Stage) (memory : Memory) : Memory :=
  stages.foldl (fun memory stage => acts (commandOf d m stage) memory) memory

/-- A session whose pipeline runs. -/
structure Running (d : BoundDevice) (m : BufferManager) (acts : Command → Memory → Memory)
    (memory : Memory) (s : Session Simulator) : Prop where
  /-- Its device. -/
  device : s.device = d
  /-- Its buffers. -/
  buffers : s.buffers = m
  /-- Its pipeline. -/
  pipeline : Pipeline.Running d m acts memory (s.pipeline, s.backend)

/-- A session whose pipeline runs, and whose events have all ended or are pending. -/
structure Staged (d : BoundDevice) (m : BufferManager) (acts : Command → Memory → Memory)
    (memory : Memory) (s : Session Simulator) : Prop where
  /-- It runs. -/
  running : Running d m acts memory s
  /-- Its events have ended or are pending. -/
  awaited : s.pipeline.Awaited d.queue s.backend

theorem onPipeline_of_ok {α : Type} {x : Attempt (Pipeline × Simulator) α} {a : α} {p : Pipeline}
    {t : Simulator} (h : x (s.pipeline, s.backend) = .ok a (p, t)) :
    onPipeline x s = .ok a { s with pipeline := p, backend := t } := by
  rw [onPipeline, within_apply, h]

/-- A stage in order succeeds and adds its effect to the memory in prospect. -/
theorem Running.submit (running : Running d m acts memory s) (stage : Stage)
    (ready : stage.startsFrom.contains s.pipeline.state = true) :
    ∃ t, (Step.submit stage).operation.perform s = .ok () t ∧
      t.pipeline.state = stage.leadsTo ∧ Staged d m acts (acts (commandOf d m stage) memory) t := by
  obtain ⟨rfl, rfl, pipeline⟩ := running
  cases stage with
  | load =>
    obtain ⟨event, p, t, ran, state, later⟩ := pipeline.write ready
    exact ⟨_, discard_of_ok (onPipeline_of_ok ran), state, ⟨rfl, rfl, later.running⟩, later.awaited⟩
  | compute =>
    have loaded : s.pipeline.state = .loaded := by simpa [Stage.startsFrom] using ready
    obtain ⟨event, p, t, ran, state, later⟩ := pipeline.execute loaded
    exact ⟨_, discard_of_ok (onPipeline_of_ok ran), state, ⟨rfl, rfl, later.running⟩, later.awaited⟩
  | store =>
    have computed : s.pipeline.state = .computed := by simpa [Stage.startsFrom] using ready
    obtain ⟨event, p, t, ran, state, later⟩ := pipeline.read computed
    exact ⟨_, discard_of_ok (onPipeline_of_ok ran), state, ⟨rfl, rfl, later.running⟩, later.awaited⟩

/-- A finish succeeds and makes the memory in prospect the present one. -/
theorem Running.finish (running : Running d m acts memory s) :
    ∃ t, Step.finish.operation.perform s = .ok () t ∧
      t.pipeline.state = s.pipeline.state.finished ∧ Running d m acts memory t ∧
      t.backend.memory = memory ∧ t.backend.pendingOf d.queue = [] ∧
      (s.pipeline.Awaited d.queue s.backend → t.pipeline.Over t.backend) := by
  obtain ⟨rfl, rfl, pipeline⟩ := running
  obtain ⟨p, t, ran, state, later, reached, idle, past⟩ := pipeline.finish
  exact ⟨_, onPipeline_of_ok ran, state, ⟨rfl, rfl, later⟩, reached, idle, past⟩

/-- Events that have all ended or are pending have all ended after a finish. -/
theorem Staged.finish (staged : Staged d m acts memory s) :
    ∃ t, Step.finish.operation.perform s = .ok () t ∧ Staged d m acts memory t ∧
      t.backend.memory = memory ∧ t.backend.pendingOf d.queue = [] ∧
      t.pipeline.Over t.backend := by
  obtain ⟨t, ran, -, later, reached, idle, past⟩ := staged.running.finish
  have past := past staged.awaited
  refine ⟨t, ran, ⟨later, fun stage event there => ?_⟩, reached, idle, past⟩
  exact .inl (past stage event there)

/-! ### Runs -/

/-- A schedule whose stages are in order succeeds, wherever it finishes; in prospect is then what
its stages do to the memory. -/
theorem run_of_follows (running : Running d m acts memory s) {steps : List Step}
    (follows : Follows s.pipeline.state (stagesOf steps)) :
    ∃ t, run steps s = .ok () t ∧
      Running d m acts (outcome d m acts (stagesOf steps) memory) t := by
  induction steps generalizing s memory with
  | nil => exact ⟨s, rfl, running⟩
  | cons step rest ih =>
    cases step with
    | submit stage =>
      obtain ⟨ready, later⟩ := follows
      obtain ⟨t, ran, state, after⟩ := running.submit stage ready
      obtain ⟨u, reached, all⟩ := ih after.running (state ▸ later)
      exact ⟨u, (run_cons_of_ok ran rest).trans reached, all⟩
    | finish =>
      obtain ⟨t, ran, state, after, -⟩ := running.finish
      obtain ⟨u, reached, all⟩ := ih after (state ▸ follows_finished follows)
      exact ⟨u, (run_cons_of_ok ran rest).trans reached, all⟩

/-- A schedule that is finished at the end leaves what its stages do to the memory. -/
theorem run_finish (running : Running d m acts memory s) {steps : List Step}
    (follows : Follows s.pipeline.state (stagesOf steps)) :
    ∃ t, run (steps ++ [.finish]) s = .ok () t ∧
      t.backend.memory = outcome d m acts (stagesOf steps) memory := by
  obtain ⟨t, ran, running⟩ := run_of_follows running follows
  obtain ⟨u, finished, -, -, reached, -⟩ := running.finish
  refine ⟨u, ?_, reached⟩
  rw [run_append_of_ok ran, run_cons_of_ok finished]
  rfl

/-- A whole cycle succeeds, and then all its events have ended. -/
theorem run_wholeCycle (running : Running d m acts memory s)
    (ready : Stage.load.startsFrom.contains s.pipeline.state = true) :
    ∃ t, run wholeCycle s = .ok () t ∧ Staged d m acts (outcome d m acts Stage.all memory) t ∧
      t.backend.memory = outcome d m acts Stage.all memory ∧ t.pipeline.Over t.backend := by
  obtain ⟨t, loaded, state, after⟩ := running.submit .load ready
  obtain ⟨u, computed, state, after⟩ := after.running.submit .compute (by rw [state]; rfl)
  obtain ⟨v, stored, state, after⟩ := after.running.submit .store (by rw [state]; rfl)
  obtain ⟨w, finished, after, reached, -, past⟩ := after.finish
  refine ⟨w, ?_, after, reached, past⟩
  exact (run_cons_of_ok loaded _).trans ((run_cons_of_ok computed _).trans
    ((run_cons_of_ok stored _).trans (run_cons_of_ok finished [])))

/-! ### Cycles that overlap and cycles that do not -/

/-- A sound session on whose queue nothing is pending runs, between two cycles. -/
theorem running_of_sound (sound : s.Sound) (idle : s.backend.pendingOf s.device.queue = [])
    (ready : Stage.load.startsFrom.contains s.pipeline.state = true) :
    Running s.device s.buffers s.backend.effect s.backend.memory s := by
  refine ⟨rfl, rfl, sound, .of_idle sound.1.queue idle, fun within => ?_, rfl⟩
  rw [ready] at within
  contradiction

/-- Nothing is pending as a session begins. -/
theorem idle_of_start {image : Image} {config : SessionConfig} {backend : Simulator}
    (started : start image config backend = .ok s) :
    s.backend.pendingOf s.device.queue = [] := by
  rw [Simulator.pendingOf, (made_of_start started).1.queue]

theorem sequential_succ (n : Nat) :
    sequential (n + 1) = (sequential n ++ Stage.all.map .submit) ++ [.finish] := by
  rw [sequential, List.replicate_succ', List.flatten_append, List.append_assoc]
  rfl

/-- Cycles that are run one after the other succeed and leave what their stages do. -/
theorem run_sequential (running : Running d m acts memory s) (present : s.backend.memory = memory)
    (ready : Stage.load.startsFrom.contains s.pipeline.state = true) (n : Nat) :
    ∃ t, run (sequential n) s = .ok () t ∧
      t.backend.memory = outcome d m acts (cycles n) memory := by
  cases n with
  | zero => exact ⟨s, rfl, present⟩
  | succ n =>
    have stages : stagesOf (sequential n ++ Stage.all.map .submit) = cycles (n + 1) := by
      rw [← stagesOf_sequential (n + 1), sequential_succ, stagesOf_append _ [.finish]]
      exact (List.append_nil _).symm
    have follows := follows_cycles ready (n + 1)
    rw [← stages] at follows ⊢
    rw [sequential_succ]
    exact run_finish running follows

/-- Overlapped cycles equal sequential cycles. On a session on whose queue nothing is pending,
take any schedule that submits the stages of `n` complete cycles in order, finishes wherever it
likes and finishes at the end. All its steps succeed, and so do those of `n` cycles that are run one
after the other; both leave the same buffers, host and device memory alike, and the same runs of
host kernels. -/
theorem overlapped_eq_sequential (reachable : s.Reachable)
    (idle : s.backend.pendingOf s.device.queue = [])
    (ready : Stage.load.startsFrom.contains s.pipeline.state = true) {n : Nat} {steps : List Step}
    (stages : stagesOf steps = cycles n) :
    ∃ t u, run (steps ++ [.finish]) s = .ok () t ∧ run (sequential n) s = .ok () u ∧
      t.backend.buffers = u.backend.buffers ∧ t.backend.runs = u.backend.runs := by
  have running := running_of_sound (sound_of_reachable reachable) idle ready
  have follows := follows_cycles ready n
  rw [← stages] at follows
  obtain ⟨t, overlapped, left⟩ := run_finish running follows
  obtain ⟨u, separate, same⟩ := run_sequential running rfl ready n
  rw [stages, ← same] at left
  exact ⟨t, u, overlapped, separate, congrArg Memory.buffers left, congrArg Memory.runs left⟩

/-- An image with one argument, on its own device; in place of its kernel runs a host kernel that
adds one to every byte of the argument. -/
def incrementing : Session Simulator :=
  let increment : HostKernel := .read 0 fun data =>
    .write 0 ((data.getD (.ofList [])).map (· + 1)) fun _ => .done []
  begun (ImageSpec.twoBanks.assembled .hardwareEmulation ImageSpec.twoBanks.manifest)
    [("vadd", increment)] {}

/-- The session with a buffer of one byte for the argument. -/
def counting : Session Simulator :=
  stateOf ((Operation.setBuffer 0).perform (stateOf ((Operation.createBuffer
    (.ofHost 0 .readWrite (.ofList [7]))).perform incrementing)))

theorem start_twoBanks (hostKernels : List (String × HostKernel)) :
    ∃ (backend : Simulator) (image : Image) (config : SessionConfig), backend.Reachable ∧
      start image config backend = .ok (begun
        (ImageSpec.twoBanks.assembled .hardwareEmulation ImageSpec.twoBanks.manifest)
        hostKernels {}) :=
  ⟨_, _, _, .start ⟨rfl, rfl, rfl, rfl, rfl, rfl, rfl⟩, start_oneArgument hostKernels⟩

theorem reachable_counting : counting.Reachable := by
  obtain ⟨backend, image, config, reachable, started⟩ := start_twoBanks _
  exact .perform (.perform (.start reachable started) _) _

theorem overlapped_eq_sequential_counting :
    counting.backend.pendingOf counting.device.queue = [] ∧
    ∃ t u, run ([.submit .load, .finish, .submit .compute, .submit .store, .submit .load,
        .submit .compute, .finish, .submit .store] ++ [.finish]) counting = .ok () t ∧
      run (sequential 2) counting = .ok () u ∧
      t.backend.buffers = u.backend.buffers ∧ t.backend.runs = u.backend.runs :=
  ⟨rfl, overlapped_eq_sequential reachable_counting rfl rfl rfl⟩

end FpgaHost.Session
