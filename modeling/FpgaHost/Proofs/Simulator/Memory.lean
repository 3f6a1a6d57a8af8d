import FpgaHost.Proofs.Simulator.History

/-!
# What commands do to memory

A command is carried out long after it is submitted, but what it does to the memories and to the
runs of host kernels is decided by the memories it finds and by the kernels alone: `effect` is that
function, and `get?_effect_migrate` says buffer by buffer what a migration does. A command that
names only what is there has its effect (`execute_of_ready`), and an event whose command can run and
that waits for nothing that has not ended has it too (`runEvent_of_ready`).
-/

namespace FpgaHost

/-- What commands act on. -/
structure Memory where
  /-- The buffers. -/
  buffers : BufferTable
  /-- The runs of host kernels so far, in order. -/
  runs : List KernelRun

namespace Simulator

open Call Steps

variable {s t u : Simulator} {queue : QueueHandle} {event : EventHandle}

/-! ### Effects -/

/-- The memory of a simulator. -/
def memory (s : Simulator) : Memory := ⟨s.buffers, s.runs⟩

/-- The kernel of a handle and what is run in its place, if anything is. -/
def hostKernelOf (s : Simulator) (kernel : KernelHandle) : Option (BoundKernel × HostKernel) :=
  (s.kernels.get? kernel).bind fun k => (s.hostKernels.lookup k.name).map fun program => (k, program)

/-- What a command does to a memory. -/
def effect (s : Simulator) : Command → Memory → Memory
  | .migrate buffers direction, m =>
    { m with buffers := buffers.foldl (fun t b => t.modify b (·.migrate direction)) m.buffers }
  | .task kernel, m =>
    match s.hostKernelOf kernel with
    | none => m
    | some (k, program) =>
      { buffers := (program.run k.args m.buffers).2
        runs := m.runs ++ [⟨k.name, (program.run k.args m.buffers).1⟩] }

/-- Everything that a command names is there. -/
def Ready (s : Simulator) : Command → Prop
  | .migrate buffers _ => ∀ b ∈ buffers, s.buffers.contains b = true
  | .task kernel => s.kernels.contains kernel = true

/-- The effects of commands depend on the kernels only. -/
theorem effect_congr (kernels : t.kernels = s.kernels) (hostKernels : t.hostKernels = s.hostKernels) :
    t.effect = s.effect := by
  funext command m
  cases command with
  | migrate buffers direction => rfl
  | task kernel => rw [effect, effect, hostKernelOf, hostKernelOf, kernels, hostKernels]

/-- A migration copies between the memories of every buffer that it names, however often it names
it, and touches no other. -/
theorem get?_effect_migrate (s : Simulator) (named : List BufferHandle) (direction : Direction)
    (m : Memory) (j : BufferHandle) : (s.effect (.migrate named direction) m).buffers.get? j =
      if j ∈ named then (m.buffers.get? j).map (·.migrate direction) else m.buffers.get? j := by
  induction named generalizing m with
  | nil => rfl
  | cons b rest ih =>
    have first : s.effect (.migrate (b :: rest) direction) m = s.effect (.migrate rest direction)
      { m with buffers := m.buffers.modify b (·.migrate direction) } := rfl
    rw [first, ih]
    by_cases same : b = j
    · have again : (Buffer.migrate · direction) ∘ (Buffer.migrate · direction) =
          (Buffer.migrate · direction) := by
        funext u
        cases direction <;> rfl
      rw [← same, Table.get?_modify_self, Option.map_map, again, ite_self,
        if_pos List.mem_cons_self]
    · simp [Table.get?_modify_of_ne _ same, Ne.symm same]

/-- Commands neither make nor free buffers. -/
theorem contains_effect (s : Simulator) (command : Command) (m : Memory) (b : BufferHandle) :
    (s.effect command m).buffers.contains b = m.buffers.contains b := by
  cases command with
  | migrate named direction =>
    rw [Table.contains, get?_effect_migrate, Table.contains]
    split
    · exact Option.isSome_map
    · rfl
  | task kernel =>
    rw [effect]
    cases s.hostKernelOf kernel with
    | none => rfl
    | some k => exact contains_run k.1.args k.2 m.buffers b

/-- Commands keep the sizes of buffers. -/
theorem sized_effect (s : Simulator) (command : Command) {m : Memory}
    (sized : BufferTable.Sized m.buffers) : BufferTable.Sized (s.effect command m).buffers := by
  cases command with
  | migrate named direction =>
    intro j b found
    rw [get?_effect_migrate] at found
    split at found
    · obtain ⟨u, there, rfl⟩ := Option.map_eq_some_iff.1 found
      exact (sized j u there).migrate direction
    · exact sized j b found
  | task kernel =>
    rw [effect]
    cases s.hostKernelOf kernel with
    | none => exact sized
    | some k => exact sized.run k.1.args k.2

theorem migrate_of_ready (direction : Direction) (buffers : List BufferHandle) (moved : Nat)
    (ready : ∀ b ∈ buffers, s.buffers.contains b = true) :
    ∃ cost t, migrate direction moved buffers s = .ok cost t ∧
      t.memory = s.effect (.migrate buffers direction) s.memory := by
  induction buffers generalizing moved s with
  | nil => exact ⟨_, s, migrate_nil direction moved s, rfl⟩
  | cons b rest ih =>
    obtain ⟨buffer, found⟩ := Table.contains_iff.1 (ready b List.mem_cons_self)
    have still : ∀ c ∈ rest, (s.buffers.modify b (·.migrate direction)).contains c = true := by
      intro c mem
      rw [Table.contains_modify]
      exact ready c (List.mem_cons_of_mem b mem)
    obtain ⟨cost, t, ran, memory⟩ := ih (s := { s with
      buffers := s.buffers.modify b (·.migrate direction) }) (addWords moved buffer.host.size) still
    refine ⟨cost, t, ?_, memory⟩
    rw [migrate_cons, found]
    exact ran

theorem runKernel_of_ready {kernel : KernelHandle} (ready : s.kernels.contains kernel = true) :
    ∃ cost t, runKernel kernel s = .ok cost t ∧ t.memory = s.effect (.task kernel) s.memory := by
  obtain ⟨k, found⟩ := Table.contains_iff.1 ready
  cases registered : s.hostKernels.lookup k.name with
  | none =>
    have none : s.hostKernelOf kernel = none := by simp [hostKernelOf, found, registered]
    refine ⟨s.kernelTime, s, ?_, ?_⟩
    · simp [runKernel_eq, found, registered]
    · simp [effect, none]
  | some program =>
    have some : s.hostKernelOf kernel = some (k, program) := by
      simp [hostKernelOf, found, registered]
    refine ⟨s.kernelTime, { s with
      buffers := (program.run k.args s.buffers).2
      runs := s.runs ++ [⟨k.name, (program.run k.args s.buffers).1⟩] }, ?_, ?_⟩
    · simp only [runKernel_eq, found, registered]
    · simp only [effect, some, memory]

/-- A command that names only what is there is carried out, with its effect. -/
theorem execute_of_ready {command : Command} (ready : s.Ready command) :
    ∃ cost t, execute command s = .ok cost t ∧ t.memory = s.effect command s.memory := by
  cases command with
  | migrate buffers direction => exact migrate_of_ready direction buffers 0 ready
  | task kernel => exact runKernel_of_ready ready

/-! ### One event -/

/-- Whether the command of an event has run. -/
def Ended (s : Simulator) (event : EventHandle) : Prop := (s.execution? event).isSome

/-- What the command of an event will do to a memory. -/
def effectOf (s : Simulator) (m : Memory) (event : EventHandle) : Memory :=
  match s.events.get? event with
  | none => m
  | some record => s.effect record.command m

theorem readyAt_of_ended (start : Nat) {wait : List EventHandle} (ended : ∀ w ∈ wait, s.Ended w) :
    ∃ time, s.readyAt start wait = some time := by
  rw [readyAt]
  induction wait generalizing start with
  | nil => exact ⟨start, rfl⟩
  | cons w rest ih =>
    obtain ⟨x, ran⟩ := Option.isSome_iff_exists.1 (ended w List.mem_cons_self)
    have time : s.ended? w = some x.ended := by
      rw [execution?] at ran
      rw [ended?, ran, Option.map_some]
    rw [List.foldlM_cons, time]
    exact ih (max start x.ended) fun v mem => ended v (List.mem_cons_of_mem w mem)

theorem ended_noted {x : Execution} {e : EventHandle} (h : s.Ended e ∨ e = event)
    (there : s.events.contains event = true) : (s.noted event x).Ended e := by
  obtain ⟨record, found⟩ := Table.contains_iff.1 there
  rw [Ended, execution?, noted]
  by_cases same : event = e
  · rw [← same, Table.get?_modify_self, found]
    rfl
  · rcases h with ended | rfl
    · rw [Table.get?_modify_of_ne _ same]
      exact ended
    · exact absurd rfl same

/-- An event whose command can run has it run: the command takes its effect and the event has
ended, and so has every event that had. -/
theorem runEvent_of_ready (submitted earliest : Nat) {record : EventRecord}
    (found : s.events.get? event = some record) (ready : s.Ready record.command)
    (ended : ∀ w ∈ record.wait, s.Ended w) :
    ∃ time t, runEvent submitted earliest event s = .ok time t ∧
      t.memory = s.effectOf s.memory event ∧ ∀ e, s.Ended e ∨ e = event → t.Ended e := by
  obtain ⟨start, readyAt⟩ := readyAt_of_ended submitted ended
  obtain ⟨cost, u, executed, memory⟩ := execute_of_ready ready
  have steady := steady_execute record.command s
  rw [executed, stateOf_ok] at steady
  refine ⟨max start earliest + cost,
    u.noted event ⟨submitted, max start earliest, max start earliest + cost⟩, ?_, ?_, ?_⟩
  · simp only [runEvent_eq, found, readyAt, executed]
  · rw [effectOf, found]
    exact memory
  · intro e h
    refine ended_noted ?_ ?_
    · rwa [Ended, execution?, steady.events]
    · rw [steady.events]
      exact Table.contains_iff.2 ⟨record, found⟩

end Simulator

end FpgaHost
