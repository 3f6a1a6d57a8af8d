import FpgaHost.Proofs.Simulator.Execution
import FpgaHost.Proofs.Word

/-!
# How long commands take

A migration takes its set-up time and the time in which the bytes of the buffers that it names move;
a kernel runs as long as was set for kernels. This is decided by how buffers were allocated and not
by what they hold, so carrying out commands makes no difference to it: the cost of a command
(`costOf`) can be read off the simulator when its queue is started.

Main statement: `cost_of_execute`.
-/

namespace FpgaHost.Simulator

open Steps

variable {s t u : Simulator}

/-! ### Costs -/

/-- How many bytes some buffers were allocated with, each counted as often as it is named; as a
word. -/
def bytesOf (s : Simulator) (buffers : List BufferHandle) : Nat :=
  sumWords (buffers.map fun b => ((s.allocation? b).map (·.size)).getD 0)

/-- How long a command takes. -/
def costOf (s : Simulator) : Command → Nat
  | .migrate buffers _ => migrationSetupTime + (s.bytesOf buffers + s.bandwidth - 1) / s.bandwidth
  | .task _ => s.kernelTime

theorem isWord_bytesOf (s : Simulator) (buffers : List BufferHandle) : IsWord (s.bytesOf buffers) :=
  isWord_sumWords _

theorem bytesOf_congr (same : ∀ b, t.allocation? b = s.allocation? b) : t.bytesOf = s.bytesOf := by
  funext buffers
  simp only [bytesOf, same]

theorem costOf_congr (same : ∀ b, t.allocation? b = s.allocation? b)
    (kernelTime : t.kernelTime = s.kernelTime) (bandwidth : t.bandwidth = s.bandwidth) :
    t.costOf = s.costOf := by
  funext command
  cases command with
  | migrate buffers direction => rw [costOf, costOf, bytesOf_congr same, bandwidth]
  | task kernel => exact kernelTime

/-- No command takes no time, if kernels do not. -/
theorem costOf_pos (takes : 0 < s.kernelTime) (command : Command) : 0 < s.costOf command := by
  cases command with
  | migrate buffers direction => exact Nat.lt_of_lt_of_le (by decide) (Nat.le_add_right _ _)
  | task kernel => exact takes

/-! ### Allocations -/

theorem allocation_modify (buffers : BufferTable) (b j : BufferHandle) {f : Buffer → Buffer}
    (keeps : ∀ u, (f u).allocation = u.allocation) :
    ((buffers.modify b f).get? j).map (·.allocation) = (buffers.get? j).map (·.allocation) := by
  rw [Table.get?_modify]
  split
  · rw [Option.map_map]
    exact congrArg (Option.map · _) (funext keeps)
  · rfl

theorem allocation_migrate (b : Buffer) (direction : Direction) :
    (b.migrate direction).allocation = b.allocation := by
  cases direction <;> rfl

/-- A host kernel leaves buffers allocated as they were. -/
theorem allocation_run {α : Type} (args : Table Nat KernelArg) (program : Interaction α)
    (buffers : BufferTable) (b : BufferHandle) :
    ((program.run args buffers).2.get? b).map (·.allocation) =
      (buffers.get? b).map (·.allocation) := by
  induction program generalizing buffers with
  | done a => rfl
  | scalar index next ih => exact ih _ buffers
  | read index next ih => exact ih _ buffers
  | write index data next ih =>
    rw [Interaction.run]
    cases bufferAt args buffers index with
    | none => exact ih false buffers
    | some bound =>
      exact (ih true _).trans (allocation_modify buffers bound.1 b fun _ => rfl)

theorem allocation?_migrate (direction : Direction) (buffers : List BufferHandle) (moved : Nat)
    (s : Simulator) (b : BufferHandle) :
    (stateOf (migrate direction moved buffers s)).allocation? b = s.allocation? b := by
  induction buffers generalizing moved s with
  | nil => rfl
  | cons first rest ih =>
    rw [migrate_cons]
    cases s.buffers.get? first with
    | none => rfl
    | some buffer =>
      refine (ih (addWords moved buffer.host.size) _).trans ?_
      exact allocation_modify s.buffers first b fun u => allocation_migrate u direction

/-- So does every command, also if it fails half way. -/
theorem allocation?_execute (command : Command) (s : Simulator) (b : BufferHandle) :
    (stateOf (execute command s)).allocation? b = s.allocation? b := by
  cases command with
  | migrate buffers direction => exact allocation?_migrate direction buffers 0 s b
  | task kernel =>
    rw [execute, runKernel_eq]
    cases s.kernels.get? kernel with
    | none => rfl
    | some k =>
      dsimp only
      cases s.hostKernels.lookup k.name with
      | none => rfl
      | some program => exact allocation_run k.args program s.buffers b

theorem allocation?_runEvent (submitted earliest : Nat) (event : EventHandle) (s : Simulator)
    (b : BufferHandle) :
    (stateOf (runEvent submitted earliest event s)).allocation? b = s.allocation? b := by
  rw [runEvent_eq]
  cases s.events.get? event with
  | none => rfl
  | some record =>
    dsimp only
    cases s.readyAt submitted record.wait with
    | none => rfl
    | some ready =>
      have executed := allocation?_execute record.command s b
      dsimp only
      cases ran : execute record.command s <;> rw [ran] at executed <;> exact executed

theorem allocation?_runEvents (submitted : Nat) (inOrder : Bool) (lastEnd : Nat)
    (events : List EventHandle) (s : Simulator) (b : BufferHandle) :
    (stateOf (runEvents submitted inOrder lastEnd events s)).allocation? b = s.allocation? b := by
  induction events generalizing lastEnd s with
  | nil => rfl
  | cons event rest ih =>
    have first := allocation?_runEvent submitted (if inOrder then lastEnd else 0) event s b
    rw [runEvents_cons]
    cases ran : runEvent submitted (if inOrder then lastEnd else 0) event s with
    | error status t =>
      rw [ran] at first
      exact first
    | ok ended t =>
      rw [ran] at first
      exact (ih (max lastEnd ended) t).trans first

/-- So does the start of a queue. -/
theorem allocation?_runPending (queue : QueueHandle) (s : Simulator) (b : BufferHandle) :
    (stateOf (runPending queue s)).allocation? b = s.allocation? b := by
  rw [runPending_eq]
  cases s.queues.get? queue with
  | none => rfl
  | some q =>
    have ran := allocation?_runEvents s.clock (!q.properties.outOfOrder) q.lastEnd q.pending
      (s.taken queue) b
    dsimp only
    cases outcome : runEvents s.clock (!q.properties.outOfOrder) q.lastEnd q.pending
      (s.taken queue) <;> rw [outcome] at ran <;> exact ran

theorem allocation?_finish (queue : QueueHandle) (s : Simulator) (b : BufferHandle) :
    (stateOf (finish queue s)).allocation? b = s.allocation? b := by
  have ran := allocation?_runPending queue s b
  rw [finish_eq]
  cases outcome : runPending queue s <;> rw [outcome] at ran <;> exact ran

/-- Carrying out a command makes no difference to what commands cost. -/
theorem costOf_execute (command : Command) (s : Simulator) :
    (stateOf (execute command s)).costOf = s.costOf := by
  have steady := steady_execute command s
  refine costOf_congr (allocation?_execute command s) ?_ ?_
  · rw [steady.rest]
  · rw [steady.rest]

/-! ### What a command takes -/

theorem cost_of_migrate {direction : Direction} {buffers : List BufferHandle} {moved cost : Nat}
    (sized : BufferTable.Sized s.buffers) (word : IsWord moved)
    (ran : migrate direction moved buffers s = .ok cost t) :
    cost = migrationSetupTime +
      (addWords moved (s.bytesOf buffers) + s.bandwidth - 1) / s.bandwidth := by
  induction buffers generalizing moved s with
  | nil =>
    have none : s.bytesOf [] = 0 := rfl
    rw [migrate_nil] at ran
    cases ran
    rw [none, addWords_zero word]
  | cons b rest ih =>
    rw [migrate_cons] at ran
    cases found : s.buffers.get? b with
    | none => simp [found] at ran
    | some buffer =>
      rw [found] at ran
      have copied : BufferTable.Sized (s.buffers.modify b (·.migrate direction)) :=
        sized.modify b fun u h => h.migrate direction
      have bytes : bytesOf { s with buffers := s.buffers.modify b (·.migrate direction) } =
          s.bytesOf :=
        bytesOf_congr fun j => allocation_modify s.buffers b j fun u => allocation_migrate u direction
      have first : s.bytesOf (b :: rest) = addWords buffer.host.size (s.bytesOf rest) := by
        rw [bytesOf, List.map_cons, sumWords_cons, allocation?, found, (sized b buffer found).host]
        rfl
      rw [ih copied (isWord_addWords _ _) ran, bytes, first, addWords_assoc]

/-- A command that is carried out takes as long as it costs. -/
theorem cost_of_execute {command : Command} {cost : Nat} (sized : BufferTable.Sized s.buffers)
    (ran : execute command s = .ok cost t) : cost = s.costOf command := by
  cases command with
  | migrate buffers direction =>
    rw [cost_of_migrate sized (by decide) ran, zero_addWords (isWord_bytesOf s buffers)]
    rfl
  | task kernel =>
    rw [execute, runKernel_eq] at ran
    cases found : s.kernels.get? kernel with
    | none => simp [found] at ran
    | some k =>
      cases registered : s.hostKernels.lookup k.name with
      | none =>
        simp only [found, registered] at ran
        cases ran
        rfl
      | some program =>
        simp only [found, registered] at ran
        cases ran
        rfl

end FpgaHost.Simulator
