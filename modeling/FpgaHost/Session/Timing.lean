import FpgaHost.Decimal.Fixed
import FpgaHost.Session.Attempt
import FpgaHost.Text.Column

/-!
# Times of stages

How long the stages of a cycle took and how fast they moved bytes, as the device answers for their
events. A stage without an event was skipped: it took no time. Times are in nanoseconds, so bytes
per unit of time are gigabytes per second.
-/

namespace FpgaHost

open Text

/-- Bytes per unit of time; zero when no time passed. -/
def throughput (bytes elapsed : Nat) : Float :=
  if elapsed = 0 then 0.0 else bytes.toUInt64.toFloat / elapsed.toUInt64.toFloat

/-! ### Asking a device -/

section
variable {σ : Type} [ComputeApi σ]

/-- The time of an instant of a command. -/
def timeOf (event : EventHandle) (instant : Instant) : Attempt σ Nat :=
  Attempt.ask (.profilingInfo event instant)

/-- The times of all instants of a command. -/
def timesOf (event : EventHandle) : Attempt σ Timestamps := do
  let queued ← timeOf event .queued
  let submitted ← timeOf event .submitted
  let started ← timeOf event .started
  let ended ← timeOf event .ended
  return { queued, submitted, started, ended }

/-- How long a command ran; zero without an event. -/
def elapsedOf : Option EventHandle → Attempt σ Nat
  | none => return 0
  | some event => do
    let started ← timeOf event .started
    let ended ← timeOf event .ended
    return ended - started

end

/-! ### Metrics -/

/-- What was measured of a stage. -/
structure StageMetrics where
  /-- The stage. -/
  stage : Stage
  /-- How many bytes it moved. -/
  bytes : Nat
  /-- Its times; none if it was skipped. -/
  times : Option Timestamps
  deriving DecidableEq, Repr

namespace StageMetrics

/-- How long the stage took. -/
def elapsed (m : StageMetrics) : Nat :=
  match m.times with
  | none => 0
  | some t => t.elapsed

/-- How fast the stage moved bytes. -/
def throughput (m : StageMetrics) : Float := FpgaHost.throughput m.bytes m.elapsed

/-- The line of a stage in a report. -/
def line (m : StageMetrics) : String :=
  let name := padRight 8 m.stage.name
  match m.times, m.stage with
  | none, _ => s!"{name} skipped"
  | some _, .compute => s!"{name} {padNumber 10 m.elapsed} ns"
  | some _, _ =>
    s!"{name} {padNumber 10 m.elapsed} ns  {padNumber 10 m.bytes} B  "
      ++ s!"{Decimal.fixed 3 m.throughput.toBits} GB/s"

end StageMetrics

/-- What was measured of a cycle. -/
structure CycleMetrics where
  /-- The load stage. -/
  load : StageMetrics
  /-- The compute stage. -/
  compute : StageMetrics
  /-- The store stage. -/
  store : StageMetrics
  deriving DecidableEq, Repr

namespace CycleMetrics

/-- The stages in order. -/
def stages (m : CycleMetrics) : List StageMetrics := [m.load, m.compute, m.store]

/-- From the first start to the last end of the stages that were not skipped. -/
def span (m : CycleMetrics) : Nat :=
  let ran := m.stages.filterMap (·.times)
  match (ran.map (·.started)).min?, (ran.map (·.ended)).max? with
  | some started, some ended => ended - started
  | _, _ => 0

/-- The report on a cycle: a line per stage and the total. -/
def text (m : CycleMetrics) : String :=
  String.join (m.stages.map fun s => s.line ++ "\n") ++
    padRight 8 "total" ++ s!" {padNumber 10 m.span} ns"

end CycleMetrics

end FpgaHost
