import FpgaHost.Session.Buffers
import FpgaHost.Session.Timing

/-!
# The pipeline of a session

A cycle submits its load, compute and store stage one after the other, each waiting on the device
for the event of the one before. A stage without buffers to move is skipped and leaves no event, so
the next one waits for nothing. Only `finish` waits on the host; it may be called at any point of a
cycle and closes the cycle once the store stage is submitted.

The events of a cycle are held, and their times can be asked for, until the next cycle begins: then
they are given back one by one. An event that is about to be given back is no longer held, whether
giving it back succeeds or not, so none is given back twice.
-/

namespace FpgaHost

/-- What is known of the latest submission of a stage. -/
structure StageRecord where
  /-- Its event; none if it was skipped or the event is given back. -/
  event : Option EventHandle := none
  /-- How many bytes it moves. -/
  bytes : Nat := 0
  deriving DecidableEq, Repr

/-- How far a cycle has come, and its stages. -/
structure Pipeline where
  /-- How far the cycle has come. -/
  state : PipelineState := .idle
  /-- The load stage. -/
  load : StageRecord := {}
  /-- The compute stage. -/
  compute : StageRecord := {}
  /-- The store stage. -/
  store : StageRecord := {}
  deriving DecidableEq, Repr

namespace Pipeline

/-! ### Looking -/

/-- The record of a stage. -/
def record (p : Pipeline) : Stage → StageRecord
  | .load => p.load
  | .compute => p.compute
  | .store => p.store

/-- The event of a stage. -/
def event (p : Pipeline) (stage : Stage) : Option EventHandle := (p.record stage).event

/-- How many bytes a stage moves. -/
def bytes (p : Pipeline) (stage : Stage) : Nat := (p.record stage).bytes

/-! ### Changing -/

/-- The pipeline with another record of a stage. -/
def withRecord (p : Pipeline) (record : StageRecord) : Stage → Pipeline
  | .load => { p with load := record }
  | .compute => { p with compute := record }
  | .store => { p with store := record }

/-- The pipeline without the event of a stage. -/
def withoutEvent (p : Pipeline) (stage : Stage) : Pipeline :=
  p.withRecord { p.record stage with event := none } stage

/-- The pipeline after a stage is submitted. The load stage begins a new cycle. -/
def submitted (p : Pipeline) (stage : Stage) (record : StageRecord) : Pipeline :=
  { (if stage = .load then {} else p).withRecord record stage with state := stage.leadsTo }

variable {σ : Type} [ComputeApi σ]

/-- Refuses a stage that is out of order. -/
def require (stage : Stage) : Attempt (Pipeline × σ) Unit := do
  let (p, _) ← get
  if !stage.startsFrom.contains p.state then throw (.outOfOrder stage p.state)

/-! ### Giving events back -/

/-- Gives the event of a stage back, if one is held. -/
def release (stage : Stage) : Attempt (Pipeline × σ) Unit := do
  let (p, _) ← get
  match p.event stage with
  | none => return
  | some event =>
    modify fun (p, s) => (p.withoutEvent stage, s)
    Attempt.onSecond (Attempt.ask (.releaseEvent event))

/-- Gives the events of all stages back, up to the first failure. -/
def releaseHeld : Attempt (Pipeline × σ) Unit := do
  release .load
  release .compute
  release .store

/-- The pipeline and the backend after the events of all stages are given back, failures aside. -/
def releaseEvents (s : Pipeline × σ) : Pipeline × σ :=
  Stage.all.foldl (fun s stage => Attempt.after (release stage) s) s

/-! ### Stages -/

/-- Submits a migration; none for no buffers. -/
def submitMigration (queue : QueueHandle) (buffers : List BufferHandle) (direction : Direction)
    (wait : List EventHandle) : Attempt σ (Option EventHandle) := do
  if buffers.isEmpty then return none
  return some (← Attempt.ask (.enqueueMigrate queue buffers direction wait))

/-- Submits the load stage. -/
def write (queue : QueueHandle) (m : BufferManager) :
    Attempt (Pipeline × σ) (Option EventHandle) := do
  require .load
  releaseHeld
  let event ← Attempt.onSecond (submitMigration queue m.loadHandles .toDevice [])
  modify fun (p, s) => (p.submitted .load { event, bytes := m.loadBytes }, s)
  return event

/-- Submits the compute stage. -/
def execute (queue : QueueHandle) (kernel : KernelHandle) :
    Attempt (Pipeline × σ) EventHandle := do
  require .compute
  let (p, _) ← get
  let event ← Attempt.onSecond (Attempt.ask (.enqueueTask queue kernel p.load.event.toList))
  modify fun (p, s) => (p.submitted .compute { event := some event }, s)
  return event

/-- Submits the store stage. -/
def read (queue : QueueHandle) (m : BufferManager) :
    Attempt (Pipeline × σ) (Option EventHandle) := do
  require .store
  let (p, _) ← get
  let event ← Attempt.onSecond
    (submitMigration queue m.storeHandles .toHost p.compute.event.toList)
  modify fun (p, s) => (p.submitted .store { event, bytes := m.storeBytes }, s)
  return event

/-- Starts all that is submitted and waits for it. -/
def finish (queue : QueueHandle) : Attempt (Pipeline × σ) Unit := do
  Attempt.onSecond (Attempt.ask (.flush queue))
  Attempt.onSecond (Attempt.ask (.finish queue))
  modify fun (p, s) => ({ p with state := p.state.finished }, s)

/-! ### Times -/

/-- The times of a stage; none if it was skipped. -/
def timestamps (p : Pipeline) (stage : Stage) : Attempt σ (Option Timestamps) := do
  match p.event stage with
  | none => return none
  | some event => return some (← timesOf event)

/-- How long a stage took. -/
def elapsed (p : Pipeline) (stage : Stage) : Attempt σ Nat := elapsedOf (p.event stage)

/-- How fast a stage moved bytes. -/
def throughput (p : Pipeline) (stage : Stage) : Attempt σ Float :=
  return FpgaHost.throughput (p.bytes stage) (← p.elapsed stage)

/-- What can be measured of a stage. -/
def measure (p : Pipeline) (stage : Stage) : Attempt σ StageMetrics :=
  return { stage, bytes := p.bytes stage, times := ← p.timestamps stage }

/-- What can be measured of the cycle. -/
def metrics (p : Pipeline) : Attempt σ CycleMetrics := do
  let load ← p.measure .load
  let compute ← p.measure .compute
  let store ← p.measure .store
  return { load, compute, store }

end Pipeline

end FpgaHost
