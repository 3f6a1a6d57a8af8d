/-!
# Stages of a cycle

A cycle loads buffers onto the device, computes, and stores buffers back. `Stage` names the three
stages and `PipelineState` how far a cycle has come; each stage may be submitted from some states
only and leads to one.
-/

namespace FpgaHost

/-- A stage of a cycle. -/
inductive Stage where
  /-- Buffers go to the device. -/
  | load
  /-- The kernel runs. -/
  | compute
  /-- Buffers come back. -/
  | store
  deriving DecidableEq, Repr

/-- How far a cycle has come. -/
inductive PipelineState where
  /-- Nothing is submitted since the last cycle was closed. -/
  | idle
  /-- The load stage is submitted. -/
  | loaded
  /-- The compute stage is submitted. -/
  | computed
  /-- The store stage is submitted. -/
  | stored
  deriving DecidableEq, Repr

namespace PipelineState

/-- The name of a state. -/
def name : PipelineState → String
  | .idle => "idle"
  | .loaded => "loaded"
  | .computed => "computed"
  | .stored => "stored"

/-- The state after all submitted work has ended: a stored cycle is closed. -/
def finished : PipelineState → PipelineState
  | .stored => .idle
  | s => s

end PipelineState

namespace Stage

/-- The stages in order. -/
def all : List Stage := [.load, .compute, .store]

/-- The name of a stage. -/
def name : Stage → String
  | .load => "load"
  | .compute => "compute"
  | .store => "store"

/-- The name of the operation that submits a stage. -/
def operation : Stage → String
  | .load => "write"
  | .compute => "execute"
  | .store => "read"

/-- The states from which a stage may be submitted. -/
def startsFrom : Stage → List PipelineState
  | .load => [.idle, .stored]
  | .compute => [.loaded]
  | .store => [.computed]

/-- The state after a stage is submitted. -/
def leadsTo : Stage → PipelineState
  | .load => .loaded
  | .compute => .computed
  | .store => .stored

end Stage

end FpgaHost
