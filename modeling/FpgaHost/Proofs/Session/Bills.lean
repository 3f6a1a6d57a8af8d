import FpgaHost.Proofs.Session.Acceptance
import FpgaHost.Proofs.Session.Arguments
import FpgaHost.Proofs.Session.Measured
import FpgaHost.Proofs.Session.Prices

/-!
# What a stage is charged with

The bytes of a stage are added up by the manager when it is submitted; how long it takes is found
out by the simulator when its command runs, from the buffers as they are then. Operations may come
in between. Both go back to the state before the operation that submitted the stage: the bytes are
those of the buffers that its command names there, and the time is what the command costs there
(`Bill`).

Every event that a session holds has such a bill, whatever was done since, and whatever of it
failed.

Main statements: `billed_performAll` and `Bill.reports`.
-/

namespace FpgaHost

open Steps Attempt

theorem Pipeline.bytes_submitted (p : Pipeline) {stage other : Stage} (record : StageRecord)
    (later : stage ≠ .load) (ne : other ≠ stage) :
    (p.submitted stage record).bytes other = p.bytes other := by
  cases stage <;> cases other <;> first | rfl | contradiction

/-- Giving events back changes records only. -/
theorem Pipeline.GaveBack.rest {s t : Simulator} (gave : Pipeline.GaveBack s t) :
    t = { s with events := t.events } := by
  induction gave with
  | none => rfl
  | more before event ih =>
    rw [Simulator.eventReleased, ih]
    rfl

theorem Simulator.Priced.gaveBack {u s t : Simulator} {event : EventHandle} {command : Command}
    (priced : Priced u s event command) (gave : Pipeline.GaveBack s t) :
    Priced u t event command := by
  induction gave with
  | none => exact priced
  | more before other ih => exact ih.eventReleased other

namespace Session

/-! ### Sizes -/

/-- The manager of a session knows the sizes of its buffers. -/
def Knows (s : Session Simulator) : Prop :=
  ∀ index c, s.buffers.buffers.get? index = some c → s.backend.Fits c.handle c.size

variable {u v w : Session Simulator} {stage : Stage} {event : EventHandle}

theorem Knows.size_of_mem (knows : u.Knows) (sound : u.Sound) {set : IndexSet} {c : ManagedBuffer}
    (mem : c ∈ u.buffers.members set) : u.backend.sizeOf c.handle = c.size := by
  obtain ⟨index, -, found⟩ := List.mem_filterMap.1 mem
  exact (knows index c found).sizeOf_eq (sound.1.buffers.live index c found)

theorem Knows.bytesOf_members (knows : u.Knows) (sound : u.Sound) (set : IndexSet) :
    u.backend.bytesOf ((u.buffers.members set).map (·.handle)) = u.buffers.bytesOf set := by
  rw [Simulator.bytesOf_eq, List.map_map, BufferManager.bytesOf]
  exact congrArg sumWords (List.map_congr_left fun c mem => knows.size_of_mem sound mem)

/-- The bytes of a stage are those of the buffers that its command names. -/
theorem Knows.bytesIn_eq (knows : u.Knows) (sound : u.Sound) (stage : Stage) :
    u.buffers.bytesIn stage =
      u.backend.bytesOf (commandOf u.device u.buffers stage).buffers := by
  cases stage with
  | load => exact (knows.bytesOf_members sound _).symm
  | compute => rfl
  | store => exact (knows.bytesOf_members sound _).symm

/-- What the command of a stage copies is there. -/
theorem Sound.contains_commandOf (sound : u.Sound) (stage : Stage) :
    ∀ b ∈ (commandOf u.device u.buffers stage).buffers, u.backend.buffers.contains b = true := by
  cases stage with
  | load => exact sound.1.buffers.members _
  | compute => exact fun b mem => absurd mem List.not_mem_nil
  | store => exact sound.1.buffers.members _

/-! ### Bills -/

/-- An event that a pipeline holds for a stage stands for the command that this stage has in a
session, it costs what that costs there, and the pipeline has recorded the bytes that it moves. -/
structure Bill (u : Session Simulator) (p : Pipeline) (b : Simulator) (stage : Stage)
    (event : EventHandle) : Prop where
  /-- The command costs its price. -/
  priced : Simulator.Priced u.backend b event (commandOf u.device u.buffers stage)
  /-- The bytes are those of the buffers that it names. -/
  bytes : p.bytes stage = u.backend.bytesOf (commandOf u.device u.buffers stage).buffers

/-- Every event that a pipeline holds has a bill from one of some sessions. -/
def Billed (origin : Session Simulator → EventHandle → Prop) (p : Pipeline) (b : Simulator) : Prop :=
  ∀ stage event, p.event stage = some event → ∃ u, origin u event ∧ Bill u p b stage event

/-- While an operation is performed that began with some session, it stays bound to the device, it
has the buffers that it had, and they cost what they have cost. -/
structure Amid (u v : Session Simulator) : Prop where
  /-- Its simulator is reachable. -/
  reachable : v.backend.Reachable
  /-- The manager knows sizes. -/
  knows : v.Knows
  /-- The device is the same. -/
  device : v.device = u.device
  /-- The buffers are the same. -/
  buffers : v.buffers = u.buffers
  /-- Kernels run as long. -/
  kernelTime : v.backend.kernelTime = u.backend.kernelTime
  /-- Bytes move as fast. -/
  bandwidth : v.backend.bandwidth = u.backend.bandwidth
  /-- Handles are numbered upwards. -/
  nextId : u.backend.nextId ≤ v.backend.nextId

theorem Amid.next (amid : Amid u v) (r : Request) :
    Amid u { v with backend := v.backend.next r } where
  reachable := amid.reachable.next r
  knows index c found := (amid.knows index c found).next r
  device := amid.device
  buffers := amid.buffers
  kernelTime := (Chronicle.kernelTime_next _ r).trans amid.kernelTime
  bandwidth := (Simulator.bandwidth_next _ r).trans amid.bandwidth
  nextId := Nat.le_trans amid.nextId (Simulator.does_next v.backend r).nextId_le

theorem Amid.step (amid : Amid u v) (step : Step) :
    Amid u (stateOf (step.operation.perform v)) := by
  have own {x : Session Simulator} (amid : Amid u x) (p : Pipeline) :
      Amid u { x with pipeline := p } := ⟨amid.reachable, amid.knows, amid.device, amid.buffers,
        amid.kernelTime, amid.bandwidth, amid.nextId⟩
  refine preserves_of_action (P := Amid u) (fun x => preserves_action ?_ _ ?_) v amid
  · exact fun p q b amid => own amid q
  · exact fun r p b _ amid => amid.next r

/-- The buffers of a stage have the sizes that they had. -/
theorem Amid.sizeOf_eq (amid : Amid u v) (sound : v.Sound) (first : u.Sound) (knows : u.Knows)
    (stage : Stage) : ∀ b ∈ (commandOf u.device u.buffers stage).buffers,
      v.backend.sizeOf b = u.backend.sizeOf b := by
  have same : ∀ set, ∀ b ∈ (u.buffers.members set).map (·.handle),
      v.backend.sizeOf b = u.backend.sizeOf b := by
    intro set b mem
    obtain ⟨c, member, rfl⟩ := List.mem_map.1 mem
    rw [knows.size_of_mem first member]
    rw [← amid.buffers] at member
    exact amid.knows.size_of_mem sound member
  cases stage with
  | load => exact same _
  | compute => exact fun b mem => absurd mem List.not_mem_nil
  | store => exact same _

section
variable {origin : Session Simulator → EventHandle → Prop} {p : Pipeline} {b : Simulator}

theorem Billed.imp (billed : Billed origin p b) {others : Session Simulator → EventHandle → Prop}
    (sub : ∀ u event, event.id < b.nextId → origin u event → others u event) :
    Billed others p b := by
  intro stage event held
  obtain ⟨u, mine, bill⟩ := billed stage event held
  exact ⟨u, sub u event bill.priced.issued mine, bill⟩

/-- Whatever is requested, bills stay. -/
theorem Billed.next (billed : Billed origin p b) (reachable : b.Reachable) (r : Request) :
    Billed origin p (b.next r) := by
  intro stage event held
  obtain ⟨u, mine, bill⟩ := billed stage event held
  exact ⟨u, mine, bill.priced.next reachable.sized r, bill.bytes⟩

theorem Billed.finished (billed : Billed origin p b) :
    Billed origin { p with state := p.state.finished } b := by
  intro stage event held
  obtain ⟨u, mine, bill⟩ := billed stage event held
  exact ⟨u, mine, bill.priced, bill.bytes⟩

/-- Events that are given back when a stage is submitted leave the others their bills. -/
theorem Billed.cleared (billed : Billed origin p b) {t : Simulator} (gave : Pipeline.GaveBack b t)
    (stage : Stage) : Billed origin (p.cleared stage) t := by
  intro other event held
  rw [Pipeline.cleared] at held ⊢
  split at held
  · rw [Pipeline.event_emptied] at held
    contradiction
  next later =>
    obtain ⟨u, mine, bill⟩ := billed other event held
    rw [if_neg later]
    exact ⟨u, mine, bill.priced.gaveBack gave, bill.bytes⟩

/-- The other stages keep their events and their bills when a stage is submitted. -/
theorem Billed.others (billed : Billed origin p b) {t : Simulator} {record : StageRecord}
    (priced : ∀ u event command, Simulator.Priced u b event command →
      Simulator.Priced u t event command) {other : Stage} (ne : other ≠ stage)
    (held : (p.submitted stage record).event other = some event) :
    ∃ u, origin u event ∧ Bill u (p.submitted stage record) t other event := by
  rw [Pipeline.event_submitted, if_neg ne] at held
  split at held
  · contradiction
  next later =>
    obtain ⟨u, mine, bill⟩ := billed other event held
    exact ⟨u, mine, priced _ _ _ bill.priced, (p.bytes_submitted record later ne).trans bill.bytes⟩

/-- A command that is put into the queue is billed with what it costs in the session that the
operation began with. -/
theorem Amid.bill_submitted (amid : Amid u v) (sound : v.Sound) (first : u.Sound) (knows : u.Knows)
    (gave : Pipeline.GaveBack v.backend b) (p : Pipeline) (stage : Stage) (profiling : Bool)
    (wait : List EventHandle) :
    Bill u (p.submitted stage { event := some ⟨b.nextId⟩, bytes := u.buffers.bytesIn stage })
      (b.submitted u.device.queue profiling (commandOf u.device u.buffers stage) wait) stage
      ⟨b.nextId⟩ where
  priced := by
    have rest := gave.rest
    have alive := sound.contains_commandOf stage
    rw [amid.device, amid.buffers] at alive
    have there : ∀ a ∈ (commandOf u.device u.buffers stage).buffers,
        b.buffers.contains a = true := by
      rw [rest]
      exact alive
    have priced := Simulator.priced_submitted (sound.1.gaveBack gave).numbered there u.device.queue
      profiling wait
    refine priced.congr ?_ ?_ ?_
    · rw [rest]
      exact amid.sizeOf_eq sound first knows stage
    · rw [rest]
      exact amid.kernelTime
    · rw [rest]
      exact amid.bandwidth
  bytes := by
    rw [← knows.bytesIn_eq first stage]
    cases stage <;> rfl

/-- A stage that enters keeps every bill and adds its own. -/
theorem Billed.entered (billed : Billed origin v.pipeline v.backend) (amid : Amid u v)
    (sound : v.Sound) (first : u.Sound) (knows : u.Knows) (entered : v.Entered stage w)
    (mine : ∀ event : EventHandle, u.backend.nextId ≤ event.id → origin u event) :
    Billed origin w.pipeline w.backend := by
  cases entered with
  | @skipped b clears moves bytes =>
    have billed := billed.cleared clears.gaveBack stage
    intro other event held
    by_cases same : other = stage
    · rw [Pipeline.event_submitted, if_pos same] at held
      contradiction
    · exact billed.others (fun _ _ _ priced => priced) same held
  | @accepted b q clears found =>
    have gave := clears.gaveBack
    have billed := billed.cleared gave stage
    intro other event held
    by_cases same : other = stage
    · subst same
      rw [Pipeline.event_submitted, if_pos rfl] at held
      obtain rfl := Option.some.inj held
      have later : u.backend.nextId ≤ b.nextId := by
        rw [gave.rest]
        exact amid.nextId
      rw [amid.device, amid.buffers]
      exact ⟨u, mine _ later, amid.bill_submitted sound first knows gave _ other _ _⟩
    · exact billed.others (fun _ _ _ priced => priced.submitted _ _ _ _) same held

end

/-! ### Operations -/

section
variable {origin : Session Simulator → EventHandle → Prop}

/-- Asking for a buffer leaves all bills as they are. -/
theorem billed_createBuffer (billed : Billed origin v.pipeline v.backend)
    (reachable : v.backend.Reachable) (request : BufferRequest) :
    Billed origin (stateOf ((Operation.createBuffer request).perform v)).pipeline
      (stateOf ((Operation.createBuffer request).perform v)).backend := by
  have kept := Preserves.discard (preserves_createBuffer
    (P := fun x : Session Simulator => x.backend.Reachable ∧ Billed origin x.pipeline x.backend)
    (fun r x _ kept => ⟨kept.1.next r, kept.2.next kept.1 r⟩) (fun x m kept => kept) request) v
    ⟨reachable, billed⟩
  exact kept.2

/-- A finish leaves all bills as they are, whether it succeeds or not. -/
theorem preserves_billed_finish (queue : QueueHandle) :
    Preserves (fun pb : Pipeline × Simulator => pb.2.Reachable ∧ Billed origin pb.1 pb.2)
      (Pipeline.finish queue) := by
  have ask : ∀ r : Request, Preserves
      (fun pb : Pipeline × Simulator => pb.2.Reachable ∧ Billed origin pb.1 pb.2)
      (onSecond (ask r) : Attempt (Pipeline × Simulator) r.Answer) := fun r =>
    preserves_onSecond_ask r fun p b kept => ⟨kept.1.next r, kept.2.next kept.1 r⟩
  exact (ask _).bind fun _ => (ask _).bind fun _ =>
    Preserves.modify fun pb kept => ⟨kept.1, kept.2.finished⟩

/-- An operation leaves the bills that there were, and bills the stages that it submits with what
they cost in the session that it began with. -/
theorem billed_perform (billed : Billed origin u.pipeline u.backend) (sound : u.Sound)
    (reachable : u.backend.Reachable) (knows : u.Knows)
    (mine : ∀ event : EventHandle, u.backend.nextId ≤ event.id → origin u event)
    (operation : Operation) :
    Billed origin (stateOf (operation.perform u)).pipeline
      (stateOf (operation.perform u)).backend := by
  by_cases creates : ∃ request, operation = .createBuffer request
  · obtain ⟨request, rfl⟩ := creates
    exact billed_createBuffer billed reachable request
  have kept := preserves_operation
    (P := fun v => v.Sound ∧ Amid u v ∧ Billed origin v.pipeline v.backend) ?_ operation
    (fun request is => absurd ⟨request, is⟩ creates) ?_ u
    ⟨sound, ⟨reachable, knows, rfl, rfl, rfl, rfl, Nat.le_refl _⟩, billed⟩
  · exact kept.2.2
  · rintro r plain v ⟨sound, amid, billed⟩
    obtain ⟨events, buffers⟩ := Request.gives_nothing_back plain
    exact ⟨sound.next events buffers, amid.next r, billed.next amid.reachable r⟩
  · rintro step v ⟨sound', amid, billed⟩
    refine ⟨preserves_step step v sound', amid.step step, ?_⟩
    cases step with
    | finish =>
      have kept := preserves_billed_finish v.device.queue (v.pipeline, v.backend)
        ⟨amid.reachable, billed⟩
      rw [perform_step, onPipeline, stateOf_within]
      exact kept.2
    | submit stage =>
      rcases sound'.submit_cases stage with same | entered
      · rwa [same]
      · exact billed.entered amid sound' sound knows entered mine

end

/-! ### Histories -/

/-- The event was handed out by an operation of a history that began with some session. -/
def Handed (s : Session Simulator) (operations : List Operation) (u : Session Simulator)
    (event : EventHandle) : Prop :=
  ∃ earlier operation later, operations = earlier ++ operation :: later ∧
    u = s.performAll earlier ∧ u.backend.nextId ≤ event.id ∧
    event.id < (stateOf (operation.perform u)).backend.nextId

/-- What the command of a stage copied was there when its event was handed out. -/
theorem Handed.contains_commandOf {s : Session Simulator} {operations : List Operation}
    (handed : Handed s operations u event) (reachable : s.Reachable) (stage : Stage) :
    ∀ b ∈ (commandOf u.device u.buffers stage).buffers, u.backend.buffers.contains b = true := by
  obtain ⟨earlier, operation, later, -, rfl, -⟩ := handed
  exact (sound_of_reachable (reachable.performAll earlier)).contains_commandOf stage

/-- The buffers of a session are in its custody, so it knows their sizes. -/
theorem Reachable.knows {s : Session Simulator} (reachable : s.Reachable) : s.Knows := by
  have custody : ∃ given, Custody given s := by
    induction reachable with
    | start reachable started => exact ⟨[], custody_of_start started⟩
    | perform reachable operation ih =>
      obtain ⟨given, custody⟩ := ih
      exact ⟨_, custody.perform reachable operation⟩
  obtain ⟨given, custody⟩ := custody
  exact fun index c found => (custody.held index c found).2

/-- Whatever is done with a session, every event that it holds has a bill from the session that the
operation began with that handed it out. -/
theorem billed_performAll {s : Session Simulator} {backend : Simulator} {image : Image}
    {config : SessionConfig} (reachable : backend.Reachable)
    (started : start image config backend = .ok s) (operations : List Operation) :
    Billed (Handed s operations) (s.performAll operations).pipeline
      (s.performAll operations).backend := by
  have begun := Reachable.start reachable started
  induction operations using List.reverseRecOn with
  | nil =>
    intro stage event held
    have none : s.pipeline = {} := (new_of_start started).2
    rw [performAll, List.foldl_nil, none] at held
    cases stage <;> contradiction
  | append_singleton done operation ih =>
    have after : s.performAll (done ++ [operation]) =
        stateOf (operation.perform (s.performAll done)) := by
      rw [performAll, List.foldl_append]
      rfl
    have reached := begun.performAll done
    -- While the operation is under way it is not known yet how many handles it will take.
    have widened : Billed (fun u event => Handed s done u event ∨
        u = s.performAll done ∧ u.backend.nextId ≤ event.id)
        (s.performAll done).pipeline (s.performAll done).backend := ih.imp fun u event _ => .inl
    have billed := billed_perform widened (sound_of_reachable reached) reached.backend
      reached.knows (fun event new => .inr ⟨rfl, new⟩) operation
    rw [after]
    refine billed.imp fun u event issued handed => ?_
    rcases handed with ⟨earlier, before, later, rfl, rest⟩ | ⟨rfl, new⟩
    · refine ⟨earlier, before, later ++ [operation], ?_, rest⟩
      rw [List.append_assoc, List.cons_append]
    · exact ⟨done, operation, [], rfl, rfl, new, issued⟩

/-! ### Reports -/

/-- An event that is not released has the command that it was billed for. -/
theorem Bill.eventCommand? {p : Pipeline} {b : Simulator} (bill : Bill u p b stage event)
    (live : (b.liveEvent? event).isSome = true) :
    b.eventCommand? event = some (commandOf u.device u.buffers stage) := by
  obtain ⟨r, live⟩ := Option.isSome_iff_exists.1 live
  rw [Simulator.eventCommand?, live, Option.map_some,
    bill.priced.named r (Option.filter_eq_some_iff.1 live).1]

/-- A stage whose event has ended reports what it was billed with. -/
theorem Bill.reports {p : Pipeline} {b : Simulator} (bill : Bill u p b stage event)
    (held : p.event stage = some event) (profiled : b.profilingOf event = some true)
    (ended : b.Ended event) : ∃ measured times, p.Reports b stage measured ∧
      measured.times = some times ∧
      (∃ x, b.execution? event = some x ∧ times.started = x.started ∧ times.ended = x.ended) ∧
      times.ended = times.started + measured.elapsed ∧
      measured.bytes = u.backend.bytesOf (commandOf u.device u.buffers stage).buffers ∧
      measured.elapsed = u.backend.costOf (commandOf u.device u.buffers stage) := by
  obtain ⟨times, timed⟩ := Simulator.timed_of_ended profiled ended
  obtain ⟨-, x, ran, began, past⟩ := Simulator.timesOf_ok (Simulator.timesOf_of_timed timed)
  have took := bill.priced.took x ran
  have elapsed : times.elapsed = u.backend.costOf (commandOf u.device u.buffers stage) := by
    rw [Timestamps.elapsed, began, past, took, Nat.add_sub_cancel_left]
  refine ⟨_, times, Pipeline.reports_of_timed held timed, rfl, ⟨x, ran, began, past⟩, ?_, bill.bytes,
    elapsed⟩
  have whole : times.ended = times.started + times.elapsed := by
    rw [elapsed, began, past, took]
  exact whole

end Session

end FpgaHost
