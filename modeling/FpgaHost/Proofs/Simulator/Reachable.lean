import FpgaHost.Proofs.Simulator.History

/-!
# Reachable simulators

A simulator is reachable if some history of requests leads to it from a simulator on which nothing
was made; between two requests it may be set up anew. Three things are true of every request:
numbers of handles are given out in increasing order, so that every handle of a reachable simulator
has a smaller number than the next one (`Numbered`); buffers keep their sizes (`Does.sized`); and
what is there stays there unless it is given back by name (`Retains`).
-/

namespace FpgaHost.Simulator

variable {s t : Simulator} {r : Request}

/-- The simulators that some history leads to. -/
inductive Reachable : Simulator → Prop
  /-- Nothing was made yet. -/
  | start {s : Simulator} (unused : s.Unused) : Reachable s
  /-- One more request. -/
  | next {s : Simulator} (reachable : Reachable s) (r : Request) : Reachable (s.next r)
  /-- Another set-up. -/
  | setUp {s : Simulator} (reachable : Reachable s) (platforms : List Platform)
      (devices : List SimulatedDevice) (hostKernels : List (String × HostKernel))
      (kernelTime bandwidth : Nat) :
      Reachable { s with platforms, devices, hostKernels, kernelTime, bandwidth }

/-! ### Numbers -/

/-- All handles of a table have numbers below a bound. -/
def Below {resource : Resource} {α : Type} (table : Table (Handle resource) α) (n : Nat) : Prop :=
  ∀ k, table.contains k = true → k.id < n

section
variable {resource : Resource} {α : Type} {table : Table (Handle resource) α} {n : Nat}

theorem below_empty (n : Nat) : Below (.empty : Table (Handle resource) α) n := by
  intro k there
  contradiction

/-- The bound itself is the number of no handle. -/
theorem Below.absent (h : Below table n) : table.contains ⟨n⟩ = false := by
  rw [← Bool.not_eq_true]
  exact fun there => Nat.lt_irrefl n (h _ there)

theorem Below.succ (h : Below table n) : Below table (n + 1) := by
  intro k there
  exact Nat.lt_succ_of_lt (h k there)

theorem Below.insert (h : Below table n) (v : α) : Below (table.insert ⟨n⟩ v) (n + 1) := by
  intro k there
  rcases Table.contains_insert.1 there with rfl | there
  · exact Nat.lt_succ_self n
  · exact h.succ k there

theorem Below.erase (h : Below table n) (k : Handle resource) : Below (table.erase k) n := by
  intro j there
  exact h j (Table.contains_erase.1 there).2

theorem Below.modify (h : Below table n) (k : Handle resource) (f : α → α) :
    Below (table.modify k f) n := by
  intro j there
  rw [Table.contains_modify] at there
  exact h j there

theorem Below.filter (h : Below table n) (p : Handle resource → α → Bool) :
    Below (table.filter p) n := by
  intro k there
  exact h k (Table.contains_of_contains_filter there)

end

/-- All handles have numbers that were given out. -/
structure Numbered (s : Simulator) : Prop where
  /-- The contexts. -/
  contexts : Below s.contexts s.nextId
  /-- The queues. -/
  queues : Below s.queues s.nextId
  /-- The programs. -/
  programs : Below s.programs s.nextId
  /-- The kernels. -/
  kernels : Below s.kernels s.nextId
  /-- The buffers. -/
  buffers : Below s.buffers s.nextId
  /-- The events. -/
  events : Below s.events s.nextId
  /-- The streams. -/
  streams : Below s.streams s.nextId

theorem Unused.numbered (unused : s.Unused) : s.Numbered where
  contexts := unused.contexts ▸ below_empty s.nextId
  queues := unused.queues ▸ below_empty s.nextId
  programs := unused.programs ▸ below_empty s.nextId
  kernels := unused.kernels ▸ below_empty s.nextId
  buffers := unused.buffers ▸ below_empty s.nextId
  events := unused.events ▸ below_empty s.nextId
  streams := unused.streams ▸ below_empty s.nextId

namespace Numbered

/-- A number may be given out without being used. -/
theorem succ (h : s.Numbered) : Numbered { s with nextId := s.nextId + 1 } where
  contexts := h.contexts.succ
  queues := h.queues.succ
  programs := h.programs.succ
  kernels := h.kernels.succ
  buffers := h.buffers.succ
  events := h.events.succ
  streams := h.streams.succ

theorem taken (h : s.Numbered) (queue : QueueHandle) : (s.taken queue).Numbered :=
  { h with queues := h.queues.modify queue _ }

theorem advanced (h : s.Numbered) (advanced : Advanced s t) : t.Numbered := by
  have buffers : Below t.buffers s.nextId := by
    intro b there
    rw [advanced.buffers] at there
    exact h.buffers b there
  have events : Below t.events s.nextId := by
    intro e there
    have same := congrArg Option.isSome (advanced.events e)
    rw [Option.isSome_map, Option.isSome_map] at same
    exact h.events e (same.symm.trans there)
  rw [advanced.rest]
  exact { h with buffers := buffers, events := events }

theorem collected (h : s.Numbered) : s.collectReleased.Numbered :=
  { h with events := h.events.filter _ }

theorem settled (h : s.Numbered) (queue : QueueHandle) (lastEnd : Nat) :
    (s.settled queue lastEnd).Numbered :=
  collected { h with queues := h.queues.modify queue _ }

theorem does (h : s.Numbered) (does : Does s r t) : t.Numbered := by
  have later := h.succ
  cases does with
  | nothing => exact h
  | createContext device => exact { later with contexts := h.contexts.insert device }
  | releaseContext context => exact { h with contexts := h.contexts.erase context }
  | createQueue context device properties =>
    exact { later with queues := h.queues.insert { properties } }
  | buildProgram context devices image names =>
    exact { later with programs := h.programs.insert names }
  | createKernel program name => exact { later with kernels := h.kernels.insert { name } }
  | setKernelArg kernel index value => exact { h with kernels := h.kernels.modify kernel _ }
  | createStream device direction kernel index =>
    exact { later with streams := h.streams.insert { kernel, index, direction } }
  | createBuffer context flags size host ext =>
    exact { later with buffers := h.buffers.insert (newBuffer { flags, ext, size } host) }
  | releaseBuffer buffer => exact { h with buffers := h.buffers.erase buffer }
  | overwriteHost buffer offset data => exact { h with buffers := h.buffers.modify buffer _ }
  | submit loud queue profiling command wait =>
    exact { later with queues := later.queues.modify queue _, events := h.events.insert _ }
  | releaseEvent event => exact collected { h with events := h.events.modify event _ }
  | stop loud queue advanced => exact (h.taken queue).advanced advanced
  | start loud queue advanced lastEnd clock =>
    exact { ((h.taken queue).advanced advanced).settled queue lastEnd with }

end Numbered

/-- Every handle of a reachable simulator has a number that was given out. -/
theorem Reachable.numbered (reachable : s.Reachable) : s.Numbered := by
  induction reachable with
  | start unused => exact unused.numbered
  | next _ r ih => exact ih.does (does_next _ r)
  | setUp _ platforms devices hostKernels kernelTime bandwidth ih => exact { ih with }

/-! ### Sizes -/

/-- Every request keeps the sizes of buffers. -/
theorem Does.sized (does : Does s r t) (sized : BufferTable.Sized s.buffers) :
    BufferTable.Sized t.buffers := by
  cases does with
  | createBuffer context flags size host ext long =>
    exact sized.insert _ (sized_newBuffer ⟨flags, ext, size⟩ long)
  | releaseBuffer buffer => exact sized.erase buffer
  | overwriteHost buffer offset data =>
    exact sized.modify buffer fun b h => h.overwriteHost offset data
  | stop loud queue advanced => exact advanced.sized sized
  | start loud queue advanced lastEnd clock => exact advanced.sized sized
  | _ => exact sized

/-- Every buffer of a reachable simulator has its size. -/
theorem Reachable.sized (reachable : s.Reachable) : BufferTable.Sized s.buffers := by
  induction reachable with
  | start unused => exact unused.buffers ▸ BufferTable.sized_empty
  | next _ r ih => exact (does_next _ r).sized ih
  | setUp _ platforms devices hostKernels kernelTime bandwidth ih => exact ih

/-! ### What stays -/

/-- How a queue works. -/
def propertiesOf (s : Simulator) (queue : QueueHandle) : Option QueueProperties :=
  (s.queues.get? queue).map (·.properties)

/-- The name of a kernel. -/
def nameOf (s : Simulator) (kernel : KernelHandle) : Option String :=
  (s.kernels.get? kernel).map (·.name)

/-- Whether the times of an event may be asked for, if it is not given back. -/
def profilingOf (s : Simulator) (event : EventHandle) : Option Bool :=
  (s.liveEvent? event).map (·.profiling)

/-- What a request leaves: queues and kernels, and buffers and events that it does not give back. -/
structure Retains (s : Simulator) (r : Request) (t : Simulator) : Prop where
  /-- Queues stay and work as before. -/
  queues : ∀ k, s.queues.contains k = true → t.propertiesOf k = s.propertiesOf k
  /-- Kernels stay and keep their names. -/
  kernels : ∀ k, s.kernels.contains k = true → t.nameOf k = s.nameOf k
  /-- Buffers stay unless they are freed. -/
  buffers : ∀ b, r ≠ .releaseBuffer b → s.buffers.contains b = true → t.buffers.contains b = true
  /-- Events stay unless they are given back. -/
  events : ∀ e, r ≠ .releaseEvent e → (s.liveEvent? e).isSome → t.profilingOf e = s.profilingOf e

namespace Retains

theorem hasQueue (retains : Retains s r t) {k : QueueHandle} (there : s.queues.contains k = true) :
    t.queues.contains k = true := by
  have same := congrArg Option.isSome (retains.queues k there)
  rw [propertiesOf, propertiesOf, Option.isSome_map, Option.isSome_map] at same
  exact same.trans there

theorem hasKernel (retains : Retains s r t) {k : KernelHandle}
    (there : s.kernels.contains k = true) : t.kernels.contains k = true := by
  have same := congrArg Option.isSome (retains.kernels k there)
  rw [nameOf, nameOf, Option.isSome_map, Option.isSome_map] at same
  exact same.trans there

theorem live (retains : Retains s r t) {e : EventHandle} (keeps : r ≠ .releaseEvent e)
    (live : (s.liveEvent? e).isSome) : (t.liveEvent? e).isSome := by
  have same := congrArg Option.isSome (retains.events e keeps live)
  rw [profilingOf, profilingOf, Option.isSome_map, Option.isSome_map] at same
  exact same.trans live

end Retains

theorem retains_self (s : Simulator) (r : Request) : Retains s r s :=
  ⟨fun _ _ => rfl, fun _ _ => rfl, fun _ _ h => h, fun _ _ _ => rfl⟩

theorem propertiesOf_of_modify (s : Simulator) (queue k : QueueHandle) {f : Queue → Queue}
    (same : ∀ q, (f q).properties = q.properties) :
    propertiesOf { s with queues := s.queues.modify queue f } k = s.propertiesOf k := by
  rw [propertiesOf, propertiesOf, Table.get?_modify]
  split
  · rw [Option.map_map]
    exact congrArg (Option.map · _) (funext same)
  · rfl

theorem profilingOf_advanced (advanced : Advanced s t) (e : EventHandle) :
    t.profilingOf e = s.profilingOf e := by
  have same := congrArg (Option.map (·.profiling)) (advanced.liveEvent? e)
  rwa [Option.map_map, Option.map_map] at same

theorem profilingOf_submitted (queue : QueueHandle) (profiling : Bool) (command : Command)
    (wait : List EventHandle) {e : EventHandle} (ne : ⟨s.nextId⟩ ≠ e) :
    (s.submitted queue profiling command wait).profilingOf e = s.profilingOf e := by
  rw [profilingOf, profilingOf, liveEvent?, submitted, Table.get?_insert_of_ne _ ne, liveEvent?]

theorem profilingOf_eventReleased {event e : EventHandle} (ne : event ≠ e) :
    (s.eventReleased event).profilingOf e = s.profilingOf e := by
  rw [profilingOf, eventReleased, liveEvent?_collectReleased, liveEvent?,
    Table.get?_modify_of_ne _ ne, profilingOf, liveEvent?]

theorem retains_taken_advanced {u : Simulator} {queue : QueueHandle}
    (advanced : Advanced (s.taken queue) u) : Retains s r u where
  queues k _ := by
    have taken : (s.taken queue).propertiesOf k = s.propertiesOf k :=
      propertiesOf_of_modify s queue k fun _ => rfl
    rw [← taken, propertiesOf, advanced.queues, propertiesOf]
  kernels k _ := by
    rw [nameOf, advanced.kernels]
    rfl
  buffers b _ there := by
    rw [advanced.buffers]
    exact there
  events e _ _ := profilingOf_advanced advanced e

theorem Numbered.ne_of_live (numbered : s.Numbered) {e : EventHandle}
    (live : (s.liveEvent? e).isSome) : ⟨s.nextId⟩ ≠ e := by
  rintro rfl
  obtain ⟨r, found⟩ := Option.isSome_iff_exists.1 live
  have there := Table.contains_iff.2 ⟨r, (Option.filter_eq_some_iff.1 found).1⟩
  exact Nat.lt_irrefl _ (numbered.events _ there)

theorem Numbered.retains (numbered : s.Numbered) (does : Does s r t) : Retains s r t := by
  have same := retains_self s r
  cases does with
  | nothing => exact same
  | createContext device => exact { same with }
  | releaseContext context => exact { same with }
  | createQueue context device properties =>
    refine { same with queues := fun k there => ?_ }
    have ne : (⟨s.nextId⟩ : QueueHandle) ≠ k := by
      rintro rfl
      exact Nat.lt_irrefl _ (numbered.queues _ there)
    rw [propertiesOf, Table.get?_insert_of_ne _ ne, propertiesOf]
  | buildProgram context devices image names => exact { same with }
  | createKernel program name =>
    refine { same with kernels := fun k there => ?_ }
    have ne : (⟨s.nextId⟩ : KernelHandle) ≠ k := by
      rintro rfl
      exact Nat.lt_irrefl _ (numbered.kernels _ there)
    rw [nameOf, Table.get?_insert_of_ne _ ne, nameOf]
  | setKernelArg kernel index value =>
    refine { same with kernels := fun k _ => ?_ }
    rw [nameOf, nameOf, Table.get?_modify]
    split
    · rw [Option.map_map]
      rfl
    · rfl
  | createStream device direction kernel index => exact { same with }
  | createBuffer context flags size host ext =>
    exact { same with buffers := fun b _ there => Table.contains_insert.2 (.inr there) }
  | releaseBuffer buffer =>
    refine { same with buffers := fun b ne there => Table.contains_erase.2 ⟨?_, there⟩ }
    rintro rfl
    exact ne rfl
  | overwriteHost buffer offset data =>
    exact { same with
      buffers := fun b _ there => (Table.contains_modify _ b buffer _).trans there }
  | submit loud queue profiling command wait =>
    exact { same with
      queues := fun k _ => propertiesOf_of_modify s queue k fun _ => rfl
      events := fun e _ live =>
        profilingOf_submitted queue profiling command wait (numbered.ne_of_live live) }
  | releaseEvent event =>
    refine { same with events := fun e ne live => profilingOf_eventReleased ?_ }
    rintro rfl
    exact ne rfl
  | stop loud queue advanced => exact retains_taken_advanced advanced
  | @start _ u loud queue advanced lastEnd clock =>
    have before := retains_taken_advanced (r := r) advanced
    refine { before with queues := fun k there => ?_, events := fun e ne live => ?_ }
    · have settled : (u.settled queue lastEnd).propertiesOf k = u.propertiesOf k :=
        propertiesOf_of_modify u queue k fun _ => rfl
      exact settled.trans (before.queues k there)
    · rw [← before.events e ne live]
      exact congrArg (Option.map (·.profiling)) (liveEvent?_collectReleased _ e)

end FpgaHost.Simulator
