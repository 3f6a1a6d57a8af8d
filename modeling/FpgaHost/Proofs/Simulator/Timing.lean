import FpgaHost.Proofs.Simulator.Contexts
import FpgaHost.Proofs.Simulator.Memory

/-!
# Time is only looked at

Nothing that the simulator does to memory depends on when it does it. To say so, all times are
erased: `untimed` forgets the clock, how long a kernel runs, how many bytes move in a unit of time,
the properties of queues and the instants of events, and keeps whether a command has run. Every
request but the question for an instant comes to the same from a state and from what is left of it
(`untimed_call`). So two simulators that differ in such things only stay so, and answer alike.

Main statement: `data_independent_of_time`.
-/

namespace FpgaHost

/-- A record without its times; whether the command has run is still told. -/
def EventRecord.untimed (record : EventRecord) : EventRecord :=
  { record with
    profiling := false
    queued := 0
    execution := record.execution.map fun _ => ⟨0, 0, 0⟩ }

/-- A queue without what decides when its commands run. -/
def Queue.untimed (q : Queue) : Queue := { q with properties := {}, lastEnd := 0 }

@[simp] theorem EventRecord.untimed_untimed (record : EventRecord) :
    record.untimed.untimed = record.untimed := by
  cases record with
  | mk command wait profiling queued execution released => cases execution <;> rfl

@[simp] theorem Queue.untimed_untimed (q : Queue) : q.untimed.untimed = q.untimed := rfl

/-- Two requests are the same, up to the properties of a queue that they make. -/
inductive Request.AlikeButQueue : Request → Request → Prop
  /-- They are the same. -/
  | same (r : Request) : AlikeButQueue r r
  /-- They make a queue in the same place. -/
  | createQueue (context : ContextHandle) (device : DeviceId)
      (properties properties' : QueueProperties) :
      AlikeButQueue (.createQueue context device properties) (.createQueue context device properties')

/-- Two calls are alike and came to the same, unless they asked for an instant. -/
inductive CallRecord.AlikeButTime : CallRecord → CallRecord → Prop
  /-- The same was asked and answered. -/
  | same (record : CallRecord) : AlikeButTime record record
  /-- Queues of any properties were asked for, and the same was answered. -/
  | createQueue (context : ContextHandle) (device : DeviceId)
      (properties properties' : QueueProperties) (outcome : Except Status QueueHandle) :
      AlikeButTime ⟨.createQueue context device properties, outcome⟩
        ⟨.createQueue context device properties', outcome⟩
  /-- The same instant was asked for. -/
  | profilingInfo (event : EventHandle) (instant : Instant) (outcome outcome' : Except Status Nat) :
      AlikeButTime ⟨.profilingInfo event instant, outcome⟩ ⟨.profilingInfo event instant, outcome'⟩

namespace Simulator

open Call Steps

/-- A simulator without all times. -/
def untimed (s : Simulator) : Simulator :=
  { s with
    queues := s.queues.map fun _ => Queue.untimed
    events := s.events.map fun _ => EventRecord.untimed
    clock := 0
    kernelTime := 0
    bandwidth := 0 }

/-! ### Looking at a simulator without times -/

section Fields

variable (s : Simulator)

@[simp] theorem untimed_untimed : s.untimed.untimed = s.untimed := by
  simp only [untimed, Table.map_map, EventRecord.untimed_untimed, Queue.untimed_untimed]

@[simp] theorem untimed_contexts : s.untimed.contexts = s.contexts := rfl

@[simp] theorem untimed_programs : s.untimed.programs = s.programs := rfl

@[simp] theorem untimed_kernels : s.untimed.kernels = s.kernels := rfl

@[simp] theorem untimed_buffers : s.untimed.buffers = s.buffers := rfl

@[simp] theorem untimed_device? (d : DeviceId) : s.untimed.device? d = s.device? d := rfl

@[simp] theorem untimed_platform? (p : PlatformId) : s.untimed.platform? p = s.platform? p := rfl

@[simp] theorem untimed_isDangling (value : KernelArg) :
    s.untimed.isDangling value = s.isDangling value := rfl

@[simp] theorem get?_untimed_queues (queue : QueueHandle) :
    s.untimed.queues.get? queue = (s.queues.get? queue).map Queue.untimed :=
  Table.get?_map s.queues (fun _ => Queue.untimed) queue

@[simp] theorem get?_untimed_events (e : EventHandle) :
    s.untimed.events.get? e = (s.events.get? e).map EventRecord.untimed :=
  Table.get?_map s.events (fun _ => EventRecord.untimed) e

@[simp] theorem untimed_liveEvent? (e : EventHandle) :
    s.untimed.liveEvent? e = (s.liveEvent? e).map EventRecord.untimed := by
  rw [liveEvent?, liveEvent?, get?_untimed_events]
  cases s.events.get? e with
  | none => rfl
  | some record =>
    cases released : record.released <;> simp [Option.filter, EventRecord.untimed, released]

theorem untimed_pinned : s.untimed.pinned = s.pinned := by
  have needs : s.untimed.needs = s.needs := by
    funext e
    rw [needs, needs, get?_untimed_events, Option.map_map]
    rfl
  have values : s.untimed.queues.values = s.queues.values.map Queue.untimed :=
    Table.values_map s.queues Queue.untimed
  rw [pinned, pinned, needs, values, List.flatMap_map]
  rfl

end Fields

/-! ### Changing a simulator without times -/

section Changes

variable (s : Simulator)

theorem untimed_collectReleased : s.collectReleased.untimed = s.untimed.collectReleased := by
  have events : (s.events.filter fun e record => !record.released || s.pinned.contains e).map
        (fun _ => EventRecord.untimed) =
      s.untimed.events.filter fun e record => !record.released || s.pinned.contains e :=
    Table.map_filter s.events fun _ _ => rfl
  rw [collectReleased, collectReleased, untimed_pinned]
  exact congrArg (fun events => { s.untimed with events }) events

theorem untimed_noted (event : EventHandle) (x : Execution) :
    (s.noted event x).untimed = s.untimed.noted event ⟨0, 0, 0⟩ := by
  have events := s.events.map_modify (k := event) (f := fun _ => EventRecord.untimed)
    (g := fun r => { r with execution := some x })
    (h := fun r => { r with execution := some ⟨0, 0, 0⟩ }) fun _ => rfl
  simp only [untimed, noted, events]

/-- Times do not tell which events are given back. -/
theorem untimed_marked (event : EventHandle) :
    untimed { s with events := s.events.modify event fun r => { r with released := true } } =
      { s.untimed with
        events := s.untimed.events.modify event fun r => { r with released := true } } := by
  have events := s.events.map_modify (k := event) (f := fun _ => EventRecord.untimed)
    (g := fun r => { r with released := true }) (h := fun r => { r with released := true })
    fun _ => rfl
  simp only [untimed, events]

theorem untimed_eventReleased (event : EventHandle) :
    (s.eventReleased event).untimed = s.untimed.eventReleased event := by
  rw [eventReleased, eventReleased, untimed_collectReleased, untimed_marked]

theorem untimed_taken (queue : QueueHandle) : (s.taken queue).untimed = s.untimed.taken queue := by
  have queues := s.queues.map_modify (k := queue) (f := fun _ => Queue.untimed)
    (g := fun q => { q with pending := [] }) (h := fun q => { q with pending := [] }) fun _ => rfl
  simp only [untimed, taken, queues]

/-- When a queue became free is a time. -/
theorem untimed_freed (queue : QueueHandle) (lastEnd : Nat) :
    untimed { s with queues := s.queues.modify queue fun q => { q with lastEnd } } =
      { s.untimed with
        queues := s.untimed.queues.modify queue fun q => { q with lastEnd := 0 } } := by
  have queues := s.queues.map_modify (k := queue) (f := fun _ => Queue.untimed)
    (g := fun q => { q with lastEnd }) (h := fun q => { q with lastEnd := 0 }) fun _ => rfl
  simp only [untimed, queues]

theorem untimed_settled (queue : QueueHandle) (lastEnd : Nat) :
    (s.settled queue lastEnd).untimed = s.untimed.settled queue 0 := by
  rw [settled, settled, untimed_collectReleased, untimed_freed]

theorem untimed_submitted (queue : QueueHandle) (profiling profiling' : Bool) (command : Command)
    (wait : List EventHandle) :
    (s.untimed.submitted queue profiling command wait).untimed =
      (s.submitted queue profiling' command wait).untimed := by
  have queues (t : Table QueueHandle Queue) := t.map_modify (k := queue)
    (f := fun _ => Queue.untimed) (g := fun q => { q with pending := q.pending ++ [⟨s.nextId⟩] })
    (h := fun q => { q with pending := q.pending ++ [⟨s.nextId⟩] }) fun _ => rfl
  simp only [untimed, submitted, queues, Table.map_insert, Table.map_map,
    EventRecord.untimed_untimed, Queue.untimed_untimed]
  rfl

end Changes

/-! ### Outcomes -/

/-- Two outcomes that differ in times only; their answers are related in some way. -/
inductive Agree {α : Type} (same : α → α → Prop) :
    EStateM.Result Status Simulator α → EStateM.Result Status Simulator α → Prop
  /-- Both succeed. -/
  | ok {a b : α} {s t : Simulator} (answers : same a b) (states : s.untimed = t.untimed) :
      Agree same (.ok a s) (.ok b t)
  /-- Both fail with the same status. -/
  | error (status : Status) {s t : Simulator} (states : s.untimed = t.untimed) :
      Agree same (.error status s) (.error status t)

/-- Two outcomes whose answers are times. -/
abbrev AgreeButTime : EStateM.Result Status Simulator Nat → EStateM.Result Status Simulator Nat →
    Prop := Agree fun _ _ => True

namespace Agree

variable {α : Type} {same : α → α → Prop} {x y : EStateM.Result Status Simulator α}

theorem symm (equivalence : Equivalence same) (h : Agree same x y) : Agree same y x := by
  cases h with
  | ok answers states => exact .ok (equivalence.symm answers) states.symm
  | error status states => exact .error status states.symm

theorem trans {z : EStateM.Result Status Simulator α} (equivalence : Equivalence same)
    (h : Agree same x y) (h' : Agree same y z) : Agree same x z := by
  cases h with
  | ok answers states =>
    cases h' with
    | ok answers' states' =>
      exact .ok (equivalence.trans answers answers') (states.trans states')
  | error status states =>
    cases h' with
    | error _ states' => exact .error status (states.trans states')

/-- What holds of a state and of what is left of it without times holds of any two states of which
the same is left. -/
theorem between {f g : Call Simulator α} (equivalence : Equivalence same)
    (left : ∀ s : Simulator, Agree same (f s.untimed) (f s))
    (right : ∀ s : Simulator, Agree same (f s.untimed) (g s)) {s t : Simulator}
    (twins : s.untimed = t.untimed) : Agree same (f s) (g t) := by
  have erased := (left s).symm equivalence
  rw [twins] at erased
  exact erased.trans equivalence (right t)

/-- An outcome agrees with what is left of it without times. -/
theorem mapState_untimed (y : EStateM.Result Status Simulator α) :
    Agree (· = ·) (mapState untimed y) y := by
  cases y with
  | ok answer t => exact .ok rfl t.untimed_untimed
  | error status t => exact .error status t.untimed_untimed

end Agree

/-! ### Commands -/

theorem agree_migrate (direction : Direction) (moved moved' : Nat) (buffers : List BufferHandle)
    (s : Simulator) :
    AgreeButTime (migrate direction moved buffers s.untimed) (migrate direction moved' buffers s) := by
  induction buffers generalizing moved moved' s with
  | nil => exact .ok trivial s.untimed_untimed
  | cons b rest ih =>
    rw [migrate_cons, migrate_cons, untimed_buffers]
    cases s.buffers.get? b with
    | none => exact .error .invalidMemObject s.untimed_untimed
    | some buffer => exact ih _ _ { s with buffers := s.buffers.modify b (·.migrate direction) }

theorem agree_runKernel (kernel : KernelHandle) (s : Simulator) :
    AgreeButTime (runKernel kernel s.untimed) (runKernel kernel s) := by
  have hostKernels : s.untimed.hostKernels = s.hostKernels := rfl
  rw [runKernel_eq, runKernel_eq, untimed_kernels, hostKernels]
  cases s.kernels.get? kernel with
  | none => exact .error .invalidValue s.untimed_untimed
  | some k =>
    dsimp only
    cases s.hostKernels.lookup k.name with
    | none => exact .ok trivial s.untimed_untimed
    | some program =>
      let ran (u : Simulator) : Simulator := { u with
        buffers := (program.run k.args s.buffers).2
        runs := s.runs ++ [⟨k.name, (program.run k.args s.buffers).1⟩] }
      exact .ok trivial (congrArg ran s.untimed_untimed)

theorem agree_execute (command : Command) (s : Simulator) :
    AgreeButTime (execute command s.untimed) (execute command s) := by
  cases command with
  | migrate buffers direction => exact agree_migrate direction 0 0 buffers s
  | task kernel => exact agree_runKernel kernel s

/-- Whether all that is awaited has ended does not depend on times. -/
theorem isSome_readyAt_untimed (start start' : Nat) (wait : List EventHandle) (s : Simulator) :
    (s.untimed.readyAt start wait).isSome = (s.readyAt start' wait).isSome := by
  induction wait generalizing start start' with
  | nil => rfl
  | cons e rest ih =>
    have ended : s.untimed.ended? e = (s.ended? e).map fun _ => 0 := by
      rw [ended?, ended?, get?_untimed_events]
      cases s.events.get? e with
      | none => rfl
      | some record =>
        simp only [Option.map_some, Option.bind_some, EventRecord.untimed, Option.map_map]
        rfl
    rw [readyAt, readyAt, List.foldlM_cons, List.foldlM_cons, ended]
    cases s.ended? e with
    | none => rfl
    | some time => exact ih (max start 0) (max start' time)

theorem agree_runEvent (submitted submitted' earliest earliest' : Nat) (event : EventHandle)
    (s : Simulator) :
    AgreeButTime (runEvent submitted earliest event s.untimed)
      (runEvent submitted' earliest' event s) := by
  rw [runEvent_eq, runEvent_eq, get?_untimed_events]
  cases s.events.get? event with
  | none => exact .error .invalidEvent s.untimed_untimed
  | some record =>
    have ready := isSome_readyAt_untimed submitted submitted' record.wait s
    have ran := agree_execute record.command s
    simp only [Option.map_some, EventRecord.untimed]
    cases untimely : s.untimed.readyAt submitted record.wait <;>
      cases timely : s.readyAt submitted' record.wait <;> rw [untimely, timely] at ready
    · exact .error .invalidEvent s.untimed_untimed
    · contradiction
    · contradiction
    · generalize execute record.command s.untimed = outcome at ran ⊢
      generalize execute record.command s = outcome' at ran ⊢
      cases ran with
      | ok _ states => exact .ok trivial (by rw [untimed_noted, untimed_noted, states])
      | error status states => exact .error status states

theorem agree_runEvents (submitted submitted' : Nat) (inOrder inOrder' : Bool)
    (lastEnd lastEnd' : Nat) (events : List EventHandle) {s t : Simulator}
    (twins : s.untimed = t.untimed) :
    AgreeButTime (runEvents submitted inOrder lastEnd events s)
      (runEvents submitted' inOrder' lastEnd' events t) := by
  induction events generalizing lastEnd lastEnd' s t with
  | nil => exact .ok trivial twins
  | cons event rest ih =>
    have first : AgreeButTime (runEvent submitted (if inOrder then lastEnd else 0) event s)
        (runEvent submitted' (if inOrder' then lastEnd' else 0) event t) :=
      .between ⟨fun _ => trivial, fun _ => trivial, fun _ _ => trivial⟩
        (agree_runEvent _ _ _ _ event) (agree_runEvent _ _ _ _ event) twins
    rw [runEvents_cons, runEvents_cons]
    generalize runEvent submitted _ event s = outcome at first ⊢
    generalize runEvent submitted' _ event t = outcome' at first ⊢
    cases first with
    | error status states => exact .error status states
    | ok _ states => exact ih _ _ states

theorem agree_runPending (queue : QueueHandle) (s : Simulator) :
    Agree (· = ·) (runPending queue s.untimed) (runPending queue s) := by
  rw [runPending_eq, runPending_eq, get?_untimed_queues]
  cases s.queues.get? queue with
  | none => exact .error .invalidValue s.untimed_untimed
  | some q =>
    have twins : (s.untimed.taken queue).untimed = (s.taken queue).untimed := by
      rw [untimed_taken, untimed_taken, untimed_untimed]
    have ran := agree_runEvents s.untimed.clock s.clock (!q.untimed.properties.outOfOrder)
      (!q.properties.outOfOrder) q.untimed.lastEnd q.lastEnd q.pending twins
    rw [Option.map_some]
    change AgreeButTime (runEvents _ _ _ q.untimed.pending _) _ at ran
    dsimp only
    generalize runEvents _ _ _ q.untimed.pending _ = outcome at ran ⊢
    generalize runEvents _ _ _ q.pending _ = outcome' at ran ⊢
    cases ran with
    | error status states => exact .error status states
    | ok _ states => exact .ok rfl (by rw [untimed_settled, untimed_settled, states])

theorem agree_finish (queue : QueueHandle) (s : Simulator) :
    Agree (· = ·) (finish queue s.untimed) (finish queue s) := by
  have ran := agree_runPending queue s
  rw [finish_eq, finish_eq]
  generalize runPending queue s.untimed = outcome at ran ⊢
  generalize runPending queue s = outcome' at ran ⊢
  cases ran with
  | error status states => exact .error status states
  | ok _ states => exact .ok rfl states

theorem agree_submit (queue : QueueHandle) (command : Command) (wait : List EventHandle)
    (s : Simulator) :
    Agree (· = ·) (submit queue command wait s.untimed) (submit queue command wait s) := by
  simp only [submit_eq, untimed_liveEvent?, Option.isNone_map, get?_untimed_queues]
  split
  · exact .error .invalidEvent s.untimed_untimed
  · cases s.queues.get? queue with
    | none => exact .error .invalidValue s.untimed_untimed
    | some q => exact .ok rfl (s.untimed_submitted queue _ _ command wait)

/-! ### Requests -/

theorem agree_enqueueMigrate (queue : QueueHandle) (buffers : List BufferHandle)
    (direction : Direction) (wait : List EventHandle) (s : Simulator) :
    Agree (· = ·) (enqueueMigrate queue buffers direction wait s.untimed)
      (enqueueMigrate queue buffers direction wait s) := by
  rw [enqueueMigrate_eq, enqueueMigrate_eq, untimed_buffers]
  split
  · exact .error .invalidValue s.untimed_untimed
  · split
    · exact .error .invalidMemObject s.untimed_untimed
    · exact agree_submit queue (.migrate buffers direction) wait s

theorem agree_enqueueTask (queue : QueueHandle) (kernel : KernelHandle) (wait : List EventHandle)
    (s : Simulator) :
    Agree (· = ·) (enqueueTask queue kernel wait s.untimed) (enqueueTask queue kernel wait s) := by
  rw [enqueueTask_eq, enqueueTask_eq, untimed_kernels]
  split
  · exact .error .invalidValue s.untimed_untimed
  · exact agree_submit queue (.task kernel) wait s

theorem agree_createQueue (context : ContextHandle) (device : DeviceId)
    (properties properties' : QueueProperties) (s : Simulator) :
    Agree (· = ·) (createQueue context device properties s.untimed)
      (createQueue context device properties' s) := by
  rw [createQueue_eq, createQueue_eq, untimed_contexts]
  split
  · exact .error .invalidValue s.untimed_untimed
  · refine .ok rfl ?_
    simp only [untimed, Table.map_insert, Table.map_map, EventRecord.untimed_untimed,
      Queue.untimed_untimed]
    rfl

/-- What does not touch a time does the same to what is left of a state without times. -/
theorem call_untimed {r : Request} (quiet : r.isQuiet)
    (looks : ∀ event instant, r ≠ .profilingInfo event instant) (s : Simulator) :
    ComputeApi.call r s.untimed = mapState untimed (ComputeApi.call r s) := by
  cases r with
  | createQueue context device properties => contradiction
  | enqueueMigrate queue buffers direction wait => contradiction
  | enqueueTask queue kernel wait => contradiction
  | flush queue => contradiction
  | finish queue => contradiction
  | profilingInfo event instant => exact absurd rfl (looks event instant)
  | platforms => rfl
  | releaseEvent event =>
    simp only [ComputeApi.call, releaseEvent_eq, untimed_liveEvent?]
    cases s.liveEvent? event with
    | none => rfl
    | some record => simp only [Option.map_some, mapState, untimed_eventReleased]
  | createStream device direction kernel index =>
    simp only [ComputeApi.call, createStream_eq, untimed_device?, untimed_kernels]
    cases s.device? device with
    | none => rfl
    | some d =>
      dsimp only
      rw [apply_ite (mapState _)]
      rfl
  | _ =>
    simp only [ComputeApi.call, requirePlatform_bind, requireDevice_bind, pure_apply,
      acceleratorDevices_eq, createContext_eq, releaseContext_eq, buildProgram_eq, createKernel_eq,
      setKernelArg_eq, createBuffer_eq, releaseBuffer_eq, hostMemory_eq, overwriteHost_eq,
      untimed_device?, untimed_platform?, untimed_contexts, untimed_programs, untimed_kernels,
      untimed_buffers, untimed_isDangling, apply_ite (mapState _)]
    repeat' first | rfl | split

theorem agree_call {r : Request} (looks : ∀ event instant, r ≠ .profilingInfo event instant)
    (s : Simulator) :
    Agree (· = ·) (ComputeApi.call r s.untimed : EStateM.Result Status Simulator r.Answer)
      (ComputeApi.call r s) := by
  cases quiet : r.isQuiet with
  | true =>
    rw [call_untimed quiet looks]
    exact .mapState_untimed _
  | false =>
    cases r with
    | createQueue context device properties => exact agree_createQueue context device _ _ s
    | enqueueMigrate queue buffers direction wait =>
      exact agree_enqueueMigrate queue buffers direction wait s
    | enqueueTask queue kernel wait => exact agree_enqueueTask queue kernel wait s
    | flush queue => exact agree_runPending queue s
    | finish queue => exact agree_finish queue s
    | _ => contradiction

/-! ### Histories -/

/-- What a call answers, or the status it fails with. -/
def answerOf {α : Type} : EStateM.Result Status Simulator α → Except Status α
  | .ok answer _ => .ok answer
  | .error status _ => .error status

/-- The calls of a history and how they end. -/
def transcript (s : Simulator) : List Request → List CallRecord
  | [] => []
  | r :: rest => ⟨r, answerOf (ComputeApi.call r s)⟩ :: (s.next r).transcript rest

namespace Agree

variable {α : Type} {x y : EStateM.Result Status Simulator α}

theorem answerOf_eq (h : Agree (· = ·) x y) : answerOf x = answerOf y := by
  cases h with
  | ok answers states => rw [answerOf, answerOf, answers]
  | error status states => rfl

theorem stateOf_eq {same : α → α → Prop} (h : Agree same x y) :
    (stateOf x).untimed = (stateOf y).untimed := by
  cases h with
  | ok answers states => exact states
  | error status states => exact states

end Agree

/-- One call keeps two simulators apart in times only, and shows no more of the difference than the
instants that are asked for. -/
theorem alike_next {r r' : Request} (alike : r.AlikeButQueue r') {s t : Simulator}
    (twins : s.untimed = t.untimed) :
    CallRecord.AlikeButTime ⟨r, answerOf (ComputeApi.call r s)⟩
        ⟨r', answerOf (ComputeApi.call r' t)⟩ ∧
      (s.next r).untimed = (t.next r').untimed := by
  cases alike with
  | createQueue context device properties properties' =>
    have agree : Agree (· = ·) (createQueue context device properties s)
        (createQueue context device properties' t) :=
      .between eq_equivalence (agree_createQueue context device _ _)
        (agree_createQueue context device _ _) twins
    refine ⟨?_, agree.stateOf_eq⟩
    have answers : answerOf (ComputeApi.call (.createQueue context device properties) s) =
        answerOf (ComputeApi.call (.createQueue context device properties') t) := agree.answerOf_eq
    rw [answers]
    exact .createQueue context device properties properties' _
  | same =>
    by_cases looks : ∃ event instant, r = .profilingInfo event instant
    · obtain ⟨event, instant, rfl⟩ := looks
      have unchanged (u : Simulator) : u.next (.profilingInfo event instant) = u := by
        simp only [next, ComputeApi.call, profilingInfo_eq]
        repeat' split
        all_goals rfl
      rw [unchanged, unchanged]
      exact ⟨.profilingInfo event instant _ _, twins⟩
    · have agree : Agree (· = ·) (ComputeApi.call r s) (ComputeApi.call r t) :=
        .between eq_equivalence (agree_call fun event instant is => looks ⟨event, instant, is⟩)
          (agree_call fun event instant is => looks ⟨event, instant, is⟩) twins
      rw [agree.answerOf_eq]
      exact ⟨.same _, agree.stateOf_eq⟩

theorem alike_nexts {requests requests' : List Request}
    (alike : List.Forall₂ Request.AlikeButQueue requests requests') {s t : Simulator}
    (twins : s.untimed = t.untimed) :
    List.Forall₂ CallRecord.AlikeButTime (s.transcript requests) (t.transcript requests') ∧
      ∀ n, (s.nexts (requests.take n)).untimed = (t.nexts (requests'.take n)).untimed := by
  induction alike generalizing s t with
  | nil =>
    refine ⟨.nil, fun n => ?_⟩
    rw [List.take_nil]
    exact twins
  | cons head tail ih =>
    obtain ⟨record, after⟩ := alike_next head twins
    obtain ⟨records, states⟩ := ih after
    refine ⟨.cons record records, fun n => ?_⟩
    cases n with
    | zero => exact twins
    | succ n => exact states n

/-- Times never influence data. Two simulators that differ in how long kernels run and how fast
bytes move, and two histories that differ in how queues work, come to the same: every call but the
question for an instant answers the same or fails with the same status, and after every call all
memories are the same and the same host kernels have run in the same order. -/
theorem data_independent_of_time (s : Simulator) (kernelTime bandwidth : Nat)
    {requests requests' : List Request}
    (alike : List.Forall₂ Request.AlikeButQueue requests requests') :
    let t := { s with kernelTime, bandwidth }
    List.Forall₂ CallRecord.AlikeButTime (s.transcript requests) (t.transcript requests') ∧
      ∀ n, (s.nexts (requests.take n)).memory = (t.nexts (requests'.take n)).memory := by
  intro t
  obtain ⟨records, states⟩ := alike_nexts alike (s := s) (t := t) rfl
  refine ⟨records, fun n => ?_⟩
  have same := congrArg memory (states n)
  exact same

/-- A simulator with a buffer, and with a kernel whose host kernel writes to the buffer. -/
def staffed : Simulator :=
  { outfitted with
    nextId := 5
    kernels := Table.empty.insert ⟨4⟩ { name := "fill", args := Table.empty.insert 0 (.buffer ⟨3⟩) }
    hostKernels := [("fill", .write 0 (.ofList [7, 7]) fun done => .done [.flag (some done)])] }

/-- A kernel run and read back on a queue of the given properties. -/
def fillAndRead (properties : QueueProperties) : List Request :=
  [.createQueue ⟨1⟩ ⟨0⟩ properties, .enqueueTask ⟨5⟩ ⟨4⟩ [],
    .enqueueMigrate ⟨5⟩ [⟨3⟩] .toHost [⟨6⟩], .finish ⟨5⟩, .profilingInfo ⟨7⟩ .ended]

/-- On a slow simulator with a plain queue and on a fast one with a queue that is measured and runs
out of order the same is written, at different times. -/
theorem data_independent_of_time_staffed :
    let t := { staffed with kernelTime := 5, bandwidth := 1 }
    let history := fillAndRead { outOfOrder := false, profiling := false }
    let history' := fillAndRead { outOfOrder := true, profiling := true }
    (staffed.nexts history).memory = (t.nexts history').memory ∧
      (staffed.nexts history).clock ≠ (t.nexts history').clock ∧
      (t.nexts history').runs = [⟨"fill", [.flag (some true)]⟩] ∧
      ((t.nexts history').buffers.get? ⟨3⟩).map (·.host) = some (.ofList [7, 7, 0, 0]) := by
  intro t history history'
  have alike : List.Forall₂ Request.AlikeButQueue history history' :=
    .cons (.createQueue _ _ _ _)
      (.cons (.same _) (.cons (.same _) (.cons (.same _) (.cons (.same _) .nil))))
  obtain ⟨-, states⟩ := data_independent_of_time staffed 5 1 alike
  exact ⟨states 5, by decide, by decide, by decide⟩

end Simulator

end FpgaHost
