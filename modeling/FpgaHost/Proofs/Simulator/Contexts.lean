import FpgaHost.Proofs.Simulator.Freshness
import FpgaHost.Proofs.Simulator.Reachable

/-!
# What the release of a context does

The table of contexts is read by the calls that name a context and by no other, whatever is queued
or runs meanwhile (`Indifferent`). So the release of a context takes back the name and nothing else.
From then on every call that names the context is refused and changes nothing, since its number is
not given out again; every other call does exactly what it would do had the context been kept
(`call_without`). That holds for the queues, programs, kernels and buffers that were made from the
context as for all others: they stay usable, and its buffers are still counted.

The interface promises more, the release of everything that was created from the context;
`outlives_context` is an instance where a buffer outlives its context.

Main statement: `call_after_releaseContext`.
-/

namespace FpgaHost

open Steps

/-- The context that a request names. -/
def Request.context? : Request → Option ContextHandle
  | .releaseContext context => some context
  | .createQueue context _ _ => some context
  | .buildProgram context _ _ => some context
  | .createBuffer context _ _ _ _ => some context
  | _ => none

/-- Whether a request takes a device into use. -/
def Request.makesContext : Request → Bool
  | .createContext _ => true
  | _ => false

namespace Simulator

/-! ### Calls that do not look at contexts -/

/-- The simulator with other contexts. -/
def withContexts (contexts : Table ContextHandle DeviceId) (s : Simulator) : Simulator :=
  { s with contexts }

/-- What a call comes to does not depend on the contexts, and it leaves them as they are. -/
def Indifferent {α : Type} (x : Call Simulator α) : Prop :=
  ∀ contexts s, x (withContexts contexts s) = mapState (withContexts contexts) (x s)

section Fields

variable (contexts : Table ContextHandle DeviceId) (s : Simulator)

@[simp] theorem withContexts_queues : (withContexts contexts s).queues = s.queues := rfl

@[simp] theorem withContexts_programs : (withContexts contexts s).programs = s.programs := rfl

@[simp] theorem withContexts_kernels : (withContexts contexts s).kernels = s.kernels := rfl

@[simp] theorem withContexts_buffers : (withContexts contexts s).buffers = s.buffers := rfl

@[simp] theorem withContexts_events : (withContexts contexts s).events = s.events := rfl

@[simp] theorem withContexts_device? (d : DeviceId) :
    (withContexts contexts s).device? d = s.device? d := rfl

@[simp] theorem withContexts_platform? (p : PlatformId) :
    (withContexts contexts s).platform? p = s.platform? p := rfl

@[simp] theorem withContexts_liveEvent? (e : EventHandle) :
    (withContexts contexts s).liveEvent? e = s.liveEvent? e := rfl

@[simp] theorem withContexts_isDangling (value : KernelArg) :
    (withContexts contexts s).isDangling value = s.isDangling value := rfl

@[simp] theorem withContexts_readyAt (start : Nat) (wait : List EventHandle) :
    (withContexts contexts s).readyAt start wait = s.readyAt start wait := rfl

end Fields

theorem indifferent_migrate (direction : Direction) (moved : Nat) (buffers : List BufferHandle) :
    Indifferent (migrate direction moved buffers) := by
  intro contexts s
  induction buffers generalizing moved s with
  | nil => rfl
  | cons b rest ih =>
    rw [migrate_cons, migrate_cons, withContexts_buffers]
    cases s.buffers.get? b with
    | none => rfl
    | some buffer => exact ih _ { s with buffers := s.buffers.modify b (·.migrate direction) }

theorem indifferent_runKernel (kernel : KernelHandle) : Indifferent (runKernel kernel) := by
  intro contexts s
  have hostKernels : (withContexts contexts s).hostKernels = s.hostKernels := rfl
  rw [runKernel_eq, runKernel_eq, withContexts_kernels, hostKernels]
  cases s.kernels.get? kernel with
  | none => rfl
  | some k =>
    dsimp only
    cases s.hostKernels.lookup k.name <;> rfl

theorem indifferent_execute (command : Command) : Indifferent (execute command) := by
  cases command with
  | migrate buffers direction => exact indifferent_migrate direction 0 buffers
  | task kernel => exact indifferent_runKernel kernel

theorem indifferent_runEvent (submitted earliest : Nat) (event : EventHandle) :
    Indifferent (runEvent submitted earliest event) := by
  intro contexts s
  rw [runEvent_eq, runEvent_eq, withContexts_events]
  cases s.events.get? event with
  | none => rfl
  | some record =>
    dsimp only
    rw [withContexts_readyAt]
    cases s.readyAt submitted record.wait with
    | none => rfl
    | some time =>
      dsimp only
      rw [indifferent_execute record.command contexts s]
      cases execute record.command s <;> rfl

theorem indifferent_runEvents (submitted : Nat) (inOrder : Bool) (lastEnd : Nat)
    (events : List EventHandle) : Indifferent (runEvents submitted inOrder lastEnd events) := by
  intro contexts s
  induction events generalizing lastEnd s with
  | nil => rfl
  | cons event rest ih =>
    rw [runEvents_cons, runEvents_cons,
      indifferent_runEvent submitted (if inOrder then lastEnd else 0) event contexts s]
    cases runEvent submitted (if inOrder then lastEnd else 0) event s with
    | error status t => rfl
    | ok ended t => exact ih (max lastEnd ended) t

theorem indifferent_runPending (queue : QueueHandle) : Indifferent (runPending queue) := by
  intro contexts s
  have taken : (withContexts contexts s).taken queue = withContexts contexts (s.taken queue) := rfl
  have clock : (withContexts contexts s).clock = s.clock := rfl
  rw [runPending_eq, runPending_eq, withContexts_queues, taken, clock]
  cases s.queues.get? queue with
  | none => rfl
  | some q =>
    dsimp only
    rw [indifferent_runEvents s.clock (!q.properties.outOfOrder) q.lastEnd q.pending contexts]
    cases runEvents s.clock (!q.properties.outOfOrder) q.lastEnd q.pending (s.taken queue) <;> rfl

theorem indifferent_finish (queue : QueueHandle) : Indifferent (finish queue) := by
  intro contexts s
  rw [finish_eq, finish_eq, indifferent_runPending queue contexts s]
  cases runPending queue s <;> rfl

theorem indifferent_submit (queue : QueueHandle) (command : Command) (wait : List EventHandle) :
    Indifferent (submit queue command wait) := by
  intro contexts s
  simp only [submit_eq, withContexts_liveEvent?, withContexts_queues, apply_ite (mapState _)]
  cases s.queues.get? queue <;> rfl

theorem indifferent_enqueueMigrate (queue : QueueHandle) (buffers : List BufferHandle)
    (direction : Direction) (wait : List EventHandle) :
    Indifferent (enqueueMigrate queue buffers direction wait) := by
  intro contexts s
  rw [enqueueMigrate_eq, enqueueMigrate_eq, withContexts_buffers]
  split
  · rfl
  · split
    · rfl
    · exact indifferent_submit queue (.migrate buffers direction) wait contexts s

theorem indifferent_enqueueTask (queue : QueueHandle) (kernel : KernelHandle)
    (wait : List EventHandle) : Indifferent (enqueueTask queue kernel wait) := by
  intro contexts s
  rw [enqueueTask_eq, enqueueTask_eq, withContexts_kernels]
  split
  · rfl
  · exact indifferent_submit queue (.task kernel) wait contexts s

/-- A request that neither names a context nor makes one is answered without regard to them. -/
theorem indifferent_call {r : Request} (names : r.context? = none)
    (makes : r.makesContext = false) : Indifferent (ComputeApi.call r : Call Simulator r.Answer) := by
  cases r with
  | createContext device => contradiction
  | releaseContext context => contradiction
  | createQueue context device properties => contradiction
  | buildProgram context devices image => contradiction
  | createBuffer context flags size host ext => contradiction
  | enqueueMigrate queue buffers direction wait =>
    exact indifferent_enqueueMigrate queue buffers direction wait
  | enqueueTask queue kernel wait => exact indifferent_enqueueTask queue kernel wait
  | flush queue => exact indifferent_runPending queue
  | finish queue => exact indifferent_finish queue
  | platforms =>
    intro contexts s
    rfl
  | createStream device direction kernel index =>
    intro contexts s
    simp only [ComputeApi.call, createStream_eq, withContexts_device?, withContexts_kernels]
    cases s.device? device with
    | none => rfl
    | some d =>
      dsimp only
      rw [apply_ite (mapState _)]
      rfl
  | _ =>
    intro contexts s
    simp only [ComputeApi.call, requirePlatform_bind, requireDevice_bind, pure_apply,
      acceleratorDevices_eq, createKernel_eq, setKernelArg_eq, releaseBuffer_eq, hostMemory_eq,
      overwriteHost_eq, profilingInfo_eq, releaseEvent_eq, withContexts_device?,
      withContexts_platform?, withContexts_programs, withContexts_kernels, withContexts_buffers,
      withContexts_liveEvent?, withContexts_isDangling, apply_ite (mapState _)]
    repeat' first | rfl | split

theorem Indifferent.contexts {α : Type} {x : Call Simulator α} (indifferent : Indifferent x)
    (s : Simulator) : (stateOf (x s)).contexts = s.contexts := by
  have same : x s = mapState (withContexts s.contexts) (x s) := indifferent s.contexts s
  rw [same, stateOf_mapState]
  rfl

/-! ### A context that is given back -/

/-- The simulator without a context. -/
def without (s : Simulator) (context : ContextHandle) : Simulator :=
  { s with contexts := s.contexts.erase context }

theorem Indifferent.without {α : Type} {x : Call Simulator α} (indifferent : Indifferent x)
    (s : Simulator) (context : ContextHandle) :
    x (s.without context) = mapState (Simulator.without · context) (x s) := by
  have kept := indifferent.contexts s
  have ran : x (s.without context) = mapState (withContexts (s.contexts.erase context)) (x s) :=
    indifferent (s.contexts.erase context) s
  rw [ran]
  cases outcome : x s <;> rw [outcome] at kept <;> simp only [mapState, withContexts,
    Simulator.without] <;> rw [← kept] <;> rfl

theorem without_absent (s : Simulator) (context : ContextHandle) :
    (s.without context).contexts.contains context = false := by
  rw [Bool.eq_false_iff]
  exact fun there => (Table.contains_erase.1 there).1 rfl

/-- A context is given back if it is there. -/
theorem releaseContext_eq_ok_iff {s t : Simulator} {context : ContextHandle} :
    releaseContext context s = .ok () t ↔
      s.contexts.contains context = true ∧ s.without context = t := by
  rw [releaseContext_eq]
  cases s.contexts.contains context <;> simp [without]

/-- A request that does not name a context is answered as if the context were still there, and does
the same. -/
theorem call_without {s : Simulator} {context : ContextHandle} (issued : context.id < s.nextId)
    {r : Request} (other : r.context? ≠ some context) :
    ComputeApi.call r (s.without context) =
      mapState (Simulator.without · context) (ComputeApi.call r s) := by
  have found {c : ContextHandle} (ne : context ≠ c) :
      (s.without context).contexts.get? c = s.contexts.get? c :=
    s.contexts.get?_erase_of_ne ne
  have there {c : ContextHandle} (ne : context ≠ c) :
      (s.without context).contexts.contains c = s.contexts.contains c :=
    s.contexts.contains_erase_of_ne ne
  cases r with
  | createContext device =>
    have ne : context ≠ ⟨s.nextId⟩ := by
      rintro rfl
      exact Nat.lt_irrefl _ issued
    have device? : (s.without context).device? device = s.device? device := rfl
    simp only [ComputeApi.call, createContext_eq, device?]
    cases s.device? device with
    | none => rfl
    | some d =>
      cases busy : d.busy with
      | true => simp only [busy, if_true, mapState]
      | false =>
        simp only [busy, Bool.false_eq_true, if_false, mapState, Simulator.without,
          s.contexts.erase_insert_of_ne ne]
  | releaseContext c =>
    have ne : context ≠ c := fun same => other (same ▸ rfl)
    simp only [ComputeApi.call, releaseContext_eq, there ne]
    cases s.contexts.contains c with
    | false => rfl
    | true =>
      simp only [Bool.not_true, Bool.false_eq_true, if_false, mapState, Simulator.without,
        s.contexts.erase_comm context c]
  | createQueue c device properties =>
    have ne : context ≠ c := fun same => other (same ▸ rfl)
    simp only [ComputeApi.call, createQueue_eq, found ne]
    cases s.contexts.get? c != some device <;> rfl
  | buildProgram c devices image =>
    have ne : context ≠ c := fun same => other (same ▸ rfl)
    simp only [ComputeApi.call, buildProgram_eq, there ne]
    cases s.contexts.contains c <;> rfl
  | createBuffer c flags size host ext =>
    have ne : context ≠ c := fun same => other (same ▸ rfl)
    simp only [ComputeApi.call, createBuffer_eq, there ne]
    cases s.contexts.contains c with
    | false => rfl
    | true => cases size == 0 <;> cases host.any (·.size < size) <;> rfl
  | _ => exact (indifferent_call rfl rfl).without s context

/-- A request that names a context that is not there is refused and changes nothing. -/
theorem call_of_absent {s : Simulator} {context : ContextHandle}
    (absent : s.contexts.contains context = false) {r : Request}
    (named : r.context? = some context) :
    ComputeApi.call r s = .error .invalidValue s := by
  cases r with
  | releaseContext c =>
    obtain rfl := Option.some.inj named
    simp only [ComputeApi.call, releaseContext_eq, absent]
    rfl
  | createQueue c device properties =>
    obtain rfl := Option.some.inj named
    have none : s.contexts.get? c = none := Option.isNone_iff_eq_none.1 (by
      rw [← Option.not_isSome, ← Table.contains, absent]
      rfl)
    simp only [ComputeApi.call, createQueue_eq, none]
    rfl
  | buildProgram c devices image =>
    obtain rfl := Option.some.inj named
    simp only [ComputeApi.call, buildProgram_eq, absent]
    rfl
  | createBuffer c flags size host ext =>
    obtain rfl := Option.some.inj named
    simp only [ComputeApi.call, createBuffer_eq, absent]
    rfl
  | _ => contradiction

/-! ### Histories after a release -/

/-- The state after a history. -/
def nexts (s : Simulator) (requests : List Request) : Simulator := requests.foldl next s

theorem Reachable.nexts {s : Simulator} (reachable : s.Reachable) (requests : List Request) :
    (s.nexts requests).Reachable := by
  induction requests generalizing s with
  | nil => exact reachable
  | cons r rest ih => exact ih (reachable.next r)

theorem nextId_le_nexts (s : Simulator) (requests : List Request) :
    s.nextId ≤ (s.nexts requests).nextId := by
  induction requests generalizing s with
  | nil => exact Nat.le_refl s.nextId
  | cons r rest ih => exact Nat.le_trans (does_next s r).nextId_le (ih (s.next r))

/-- A history after the release of a context does what it would do had the context been kept and
not been named. -/
theorem nexts_without {s : Simulator} {context : ContextHandle} (issued : context.id < s.nextId)
    (requests : List Request) :
    (s.without context).nexts requests =
      (s.nexts (requests.filter (·.context? ≠ some context))).without context := by
  induction requests generalizing s with
  | nil => rfl
  | cons r rest ih =>
    by_cases named : r.context? = some context
    · have unchanged : (s.without context).next r = s.without context := by
        rw [next, call_of_absent (s.without_absent context) named, stateOf_error]
      rw [List.filter_cons_of_neg (by simpa using named), nexts, List.foldl_cons, unchanged]
      exact ih issued
    · have same : (s.without context).next r = (s.next r).without context := by
        rw [next, call_without issued named, stateOf_mapState, next]
      have later : context.id < (s.next r).nextId :=
        Nat.lt_of_lt_of_le issued (does_next s r).nextId_le
      rw [List.filter_cons_of_pos (by simpa using named), nexts, List.foldl_cons, same]
      exact ih later

/-- What becomes of a simulator once a context was given back. Whatever is asked for afterwards,
every request that names the context is refused and changes nothing, and every other request is
answered as if the context were still there: whatever was made from the context stays usable, and
its buffers are counted. -/
theorem call_after_releaseContext {s t : Simulator} {context : ContextHandle}
    (reachable : s.Reachable)
    (released : ComputeApi.call (.releaseContext context) s = .ok () t)
    (requests : List Request) (r : Request) :
    let kept := s.nexts (requests.filter (·.context? ≠ some context))
    t.nexts requests = kept.without context ∧
    (t.nexts requests).bufferCount = kept.bufferCount ∧
    ComputeApi.call r (t.nexts requests) =
      if r.context? = some context then .error .invalidValue (t.nexts requests)
      else mapState (Simulator.without · context) (ComputeApi.call r kept) := by
  intro kept
  obtain ⟨there, rfl⟩ := releaseContext_eq_ok_iff.1 released
  have issued := reachable.numbered.contexts context there
  have history := nexts_without issued requests
  refine ⟨history, by rw [history]; rfl, ?_⟩
  rw [history]
  split
  next named => exact call_of_absent (kept.without_absent context) named
  next other => exact call_without (Nat.lt_of_lt_of_le issued (s.nextId_le_nexts _)) other

/-- A simulator with a context, and with a queue and a buffer that were made from it. -/
def outfitted : Simulator :=
  (forDevice "xilinx" "u200").nexts
    [.createContext ⟨0⟩, .createQueue ⟨1⟩ ⟨0⟩ {}, .createBuffer ⟨1⟩ ⟨1⟩ 4 none none]

theorem unused_forDevice (vendor device : String) : (forDevice vendor device).Unused :=
  ⟨rfl, rfl, rfl, rfl, rfl, rfl, rfl⟩

theorem reachable_outfitted : outfitted.Reachable :=
  (Reachable.start (unused_forDevice "xilinx" "u200")).nexts _

/-- The buffer can be used and its memory read after its context was given back. -/
theorem call_after_releaseContext_outfitted :
    let t := outfitted.without ⟨1⟩
    let later : List Request :=
      [.releaseContext ⟨1⟩, .enqueueMigrate ⟨2⟩ [⟨3⟩] .toDevice [], .finish ⟨2⟩]
    ComputeApi.call (.releaseContext ⟨1⟩) outfitted = .ok () t ∧
      (t.nexts later).bufferCount = 1 ∧
      ComputeApi.call (.hostMemory ⟨3⟩) (t.nexts later) = .ok (.zeros 4) (t.nexts later) := by
  intro t later
  have released : ComputeApi.call (.releaseContext ⟨1⟩) outfitted = .ok () t := rfl
  obtain ⟨history, count, answer⟩ :=
    call_after_releaseContext reachable_outfitted released later (.hostMemory ⟨3⟩)
  refine ⟨released, count.trans rfl, ?_⟩
  rw [answer, history]
  rfl

/-- Giving a context back does not free the buffers that were made from it. -/
theorem outlives_context :
    ¬∀ (s u t : Simulator) (context : ContextHandle) (flags : MemFlags) (size : Nat)
        (host : Option Bytes) (ext : Option ExtPtr) (buffer : BufferHandle), s.Reachable →
      ComputeApi.call (.createBuffer context flags size host ext) s = .ok buffer u →
      ComputeApi.call (.releaseContext context) u = .ok () t →
      (∃ status, ComputeApi.call (.hostMemory buffer) t = .error status t) ∧
        t.bufferCount ≤ s.bufferCount := by
  intro freed
  let s := (forDevice "xilinx" "u200").next (.createContext ⟨0⟩)
  have reachable : s.Reachable := .next (.start (unused_forDevice _ _)) _
  obtain ⟨⟨status, refused⟩, -⟩ := freed s _ _ ⟨1⟩ ⟨1⟩ 4 none none _ reachable rfl rfl
  contradiction

end Simulator

end FpgaHost
