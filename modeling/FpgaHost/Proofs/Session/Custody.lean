import FpgaHost.Proofs.Session.Managers
import FpgaHost.Proofs.Session.Reachable
import FpgaHost.Proofs.Session.Start
import FpgaHost.Proofs.Simulator.Costs
import FpgaHost.Proofs.Simulator.Handles

/-!
# Who has a buffer

The buffers of a session are written down twice: the manager has a handle for each argument, and the
simulator has the buffers. The two agree after any operations, however many of them failed. A handle
that the session was given is either that of an argument, and then it is there with the size that
the manager knows, or it is gone for good (`Custody`).

What an operation does to the manager is said once (`Turnover`): a buffer stays in its place or is
gone afterwards, and a buffer that came was given to the session by this operation.

Main statement: `custody_exact`.
-/

namespace FpgaHost

open Steps Attempt

/-! ### Sizes that stay -/

namespace Simulator

variable {s t : Simulator} {r : Request} {b : BufferHandle} {size : Nat}

theorem allocation?_of_isQuiet (issued : b.id < s.nextId) (quiet : r.isQuiet) {a : Allocation}
    (known : (s.next r).allocation? b = some a) : s.allocation? b = some a := by
  have does := does_next s r
  generalize s.next r = t at does known
  cases does with
  | createBuffer context flags size host ext long =>
    have ne : ⟨s.nextId⟩ ≠ b := by
      rintro rfl
      exact Nat.lt_irrefl _ issued
    rwa [allocation?, allocated, Table.get?_insert_of_ne _ ne] at known
  | releaseBuffer buffer =>
    rw [allocation?, Table.get?_erase] at known
    split at known
    · contradiction
    · exact known
  | overwriteHost buffer offset data =>
    have same := allocation_modify s.buffers buffer b
      (f := fun b => { b with host := b.host.overwrite offset data }) fun _ => rfl
    exact same.symm.trans known
  | createQueue context device properties => contradiction
  | submit loud queue profiling command wait => simp [quiet] at loud
  | stop loud queue advanced => simp [quiet] at loud
  | start loud queue advanced lastEnd clock => simp [quiet] at loud
  | _ => exact known

/-- No request changes how a buffer is allocated. -/
theorem allocation?_of_next (issued : b.id < s.nextId) (r : Request) {a : Allocation}
    (known : (s.next r).allocation? b = some a) : s.allocation? b = some a := by
  by_cases quiet : r.isQuiet
  · exact allocation?_of_isQuiet issued quiet known
  have submission {queue : QueueHandle} {wait : List EventHandle}
      {outcome : EStateM.Result Status Simulator EventHandle}
      (submission : Submission s queue wait outcome) :
      (stateOf outcome).allocation? b = s.allocation? b := by
    cases submission <;> rfl
  rw [← known, eq_comm]
  cases r with
  | createQueue context device properties =>
    simp only [next, ComputeApi.call, createQueue_eq]
    split <;> rfl
  | enqueueMigrate queue buffers direction wait =>
    exact submission (submission_enqueueMigrate s queue buffers direction wait)
  | enqueueTask queue kernel wait => exact submission (submission_enqueueTask s queue kernel wait)
  | flush queue => exact allocation?_runPending queue s b
  | finish queue => exact allocation?_finish queue s b
  | _ => exact absurd rfl quiet

/-- A buffer whose number was given out has some size for as long as it is there. -/
structure Fits (s : Simulator) (b : BufferHandle) (size : Nat) : Prop where
  /-- Its number is not used again. -/
  issued : b.id < s.nextId
  /-- It was allocated with that size. -/
  size : ∀ a, s.allocation? b = some a → a.size = size

theorem Fits.next (fits : s.Fits b size) (r : Request) : (s.next r).Fits b size where
  issued := Nat.lt_of_lt_of_le fits.issued (does_next s r).nextId_le
  size a known := fits.size a (allocation?_of_next fits.issued r known)

/-- An allocation that is answered makes a buffer of the size that was asked for. -/
theorem allocated_of_granted {context : ContextHandle} {flags : MemFlags} {host : Option Bytes}
    {ext : Option ExtPtr}
    (granted : ComputeApi.call (.createBuffer context flags size host ext) s = .ok b t) :
    b = ⟨s.nextId⟩ ∧ t = s.allocated { flags, ext, size } host := by
  simp only [ComputeApi.call, createBuffer_eq] at granted
  repeat' split at granted
  all_goals cases granted
  exact ⟨rfl, rfl⟩

theorem fits_allocated (s : Simulator) (allocation : Allocation) (host : Option Bytes) :
    (s.allocated allocation host).Fits ⟨s.nextId⟩ allocation.size where
  issued := Nat.lt_succ_self _
  size a known := by
    rw [allocation?, allocated, Table.get?_insert_self] at known
    cases known
    rfl

end Simulator

/-! ### New buffers -/

namespace BufferManager

variable {m : BufferManager} {s : Simulator}

/-- A buffer is that of some argument. -/
def Has (m : BufferManager) (b : BufferHandle) : Prop :=
  ∃ index c, m.buffers.get? index = some c ∧ c.handle = b

/-- What may become of the buffers of a manager, if the backend gives it a handle or none. -/
structure Turnover (granted : Option BufferHandle) (before after : BufferManager × Simulator) :
    Prop where
  /-- A buffer stays in its place or is gone for good. -/
  left : ∀ index c, before.1.buffers.get? index = some c →
    after.1.buffers.get? index = some c ∨ after.2.Gone (.buffer c.handle)
  /-- A buffer that was not there was given, and has the size that is known of it. -/
  came : ∀ index c, after.1.buffers.get? index = some c →
    before.1.buffers.get? index = some c ∨
      granted = some c.handle ∧ after.2.Fits c.handle c.size
  /-- What was given is there. -/
  placed : ∀ b, granted = some b → after.1.Has b

theorem turnover_of_same {before after : BufferManager × Simulator}
    (same : after.1.buffers = before.1.buffers) : Turnover none before after where
  left index c found := .inl (by rwa [same])
  came index c found := .inl (by rwa [same] at found)
  placed b given := by contradiction

/-- The buffer that an argument had is gone once it has another one. -/
theorem turnover_create (numbered : s.Numbered) (backed : m.Backed s) (context : ContextHandle)
    (args : ArgumentTable) (request : BufferRequest) :
    Turnover (Step.granted? (m, s) (.create context args request)) (m, s)
      (stateOf (create context args request (m, s))) := by
  rw [Step.granted?]
  cases granted : ComputeApi.call (m.allocation context args request) s with
  | error status t =>
    rw [create_of_refused granted]
    exact turnover_of_same rfl
  | ok handle t =>
    rw [stateOf_create_of_granted granted]
    obtain ⟨rfl, allocated⟩ := Simulator.allocated_of_granted granted
    have made := Simulator.does_next s (m.allocation context args request)
    rw [Simulator.next, granted, stateOf_ok] at made
    have fits : t.Fits ⟨s.nextId⟩ request.size := by
      rw [allocated]
      exact s.fits_allocated _ request.host
    refine ⟨fun index c had => ?_, fun index c found => ?_, fun b given => ?_⟩
    · by_cases here : request.index = index
      · refine .inr ?_
        dsimp only
        rw [here, had]
        have there : t.there (.buffer c.handle) = true := by
          rw [allocated]
          exact Table.contains_insert.2 (.inr (backed.live index c had))
        exact (numbered.does made).gone there List.mem_cons_self
      · exact .inl ((get?_install m request.index index _).trans ((if_neg here).trans had))
    · rw [get?_install] at found
      split at found
      · obtain rfl := Option.some.inj found
        refine .inr ⟨rfl, ?_⟩
        dsimp only
        cases m.buffers.get? request.index with
        | none => exact fits
        | some old => exact fits.next _
      · exact .inl found
    · obtain rfl := Option.some.inj given
      exact ⟨request.index, _, (get?_install m request.index _ _).trans (if_pos rfl), rfl⟩

end BufferManager

/-! ### Sessions -/

namespace Session

section
variable {σ : Type} [ComputeApi σ]

/-- The handle of a buffer that an operation is given by the backend. -/
def Operation.granted? (s : Session σ) : Operation → Option BufferHandle
  | .createBuffer request =>
    BufferManager.Step.granted? (s.buffers, s.backend) (.create s.device.context s.args request)
  | _ => none

/-- The handles of all buffers that a session is given by the backend during some operations. -/
def granted (s : Session σ) : List Operation → List BufferHandle
  | [] => []
  | operation :: rest =>
    (operation.granted? s).toList ++ (stateOf (operation.perform s)).granted rest

/-- Asking for a buffer is left to the manager. -/
theorem stateOf_createBuffer (s : Session σ) (request : BufferRequest) :
    stateOf ((Operation.createBuffer request).perform s) =
      let after := stateOf (BufferManager.create s.device.context s.args request (s.buffers, s.backend))
      { s with buffers := after.1, backend := after.2 } := by
  rw [Operation.perform, stateOf_discard, createBuffer, get_bind, onBuffers, stateOf_within]

/-- No other operation changes the manager. -/
theorem buffers_perform (s : Session σ) {operation : Operation}
    (other : ∀ request, operation ≠ .createBuffer request) :
    (stateOf (operation.perform s)).buffers = s.buffers :=
  preserves_operation (P := fun v : Session σ => v.buffers = s.buffers) (fun _ _ _ same => same)
    operation (fun request is => absurd is (other request))
    (fun _ => preserves_of_action fun _ _ same => same) s rfl

end

variable {s : Session Simulator}

/-- What is gone stays gone, whatever is done with a session. -/
theorem gone_perform {loan : Loan} (gone : s.backend.Gone loan) (operation : Operation) :
    (stateOf (operation.perform s)).backend.Gone loan :=
  preserves_of_requests (P := fun v => v.backend.Gone loan) (fun r _ _ gone => gone.next r)
    (fun _ _ _ gone => gone) operation s gone

theorem fits_perform {b : BufferHandle} {size : Nat} (fits : s.backend.Fits b size)
    (operation : Operation) : (stateOf (operation.perform s)).backend.Fits b size :=
  preserves_of_requests (P := fun v => v.backend.Fits b size) (fun r _ _ fits => fits.next r)
    (fun _ _ _ fits => fits) operation s fits

theorem turnover_perform (reachable : s.Reachable) (operation : Operation) :
    BufferManager.Turnover (operation.granted? s) (s.buffers, s.backend)
      ((stateOf (operation.perform s)).buffers, (stateOf (operation.perform s)).backend) := by
  have sound := sound_of_reachable reachable
  by_cases creates : ∃ request, operation = .createBuffer request
  · obtain ⟨request, rfl⟩ := creates
    rw [stateOf_createBuffer]
    exact BufferManager.turnover_create sound.1.numbered sound.1.buffers _ _ request
  · have other : ∀ request, operation ≠ .createBuffer request :=
      fun request is => creates ⟨request, is⟩
    have none : operation.granted? s = none := by
      cases operation with
      | createBuffer request => exact absurd rfl (other request)
      | _ => rfl
    rw [none]
    exact BufferManager.turnover_of_same (congrArg _ (buffers_perform s other))

/-! ### Histories -/

/-- A session that was given some buffers has each of them for an argument or has none of it, and
knows their sizes. -/
structure Custody (given : List BufferHandle) (s : Session Simulator) : Prop where
  /-- What an argument has was given, with the size that is known of it. -/
  held : ∀ index c, s.buffers.buffers.get? index = some c →
    c.handle ∈ given ∧ s.backend.Fits c.handle c.size
  /-- What was given is that of an argument or gone. -/
  gone : ∀ b ∈ given, s.buffers.Has b ∨ s.backend.Gone (.buffer b)

variable {given : List BufferHandle}

theorem custody_of_start {image : Image} {config : SessionConfig} {backend : Simulator}
    (started : start image config backend = .ok s) : Custody [] s := by
  refine ⟨fun index c found => ?_, nofun⟩
  rw [(new_of_start started).1] at found
  contradiction

/-- Every operation keeps the custody of what was given, and takes what it is given itself. -/
theorem Custody.perform (custody : Custody given s) (reachable : s.Reachable)
    (operation : Operation) :
    Custody (given ++ (operation.granted? s).toList) (stateOf (operation.perform s)) := by
  have turnover := turnover_perform reachable operation
  refine ⟨fun index c found => ?_, fun b mem => ?_⟩
  · obtain before | ⟨granted, fits⟩ := turnover.came index c found
    · obtain ⟨mem, fits⟩ := custody.held index c before
      exact ⟨List.mem_append_left _ mem, fits_perform fits operation⟩
    · refine ⟨List.mem_append_right _ ?_, fits⟩
      rw [granted]
      exact List.mem_singleton_self _
  · rcases List.mem_append.1 mem with old | new
    · rcases custody.gone b old with ⟨index, c, found, rfl⟩ | gone
      · exact (turnover.left index c found).imp_left fun stays => ⟨index, c, stays, rfl⟩
      · exact .inr (gone_perform gone operation)
    · exact .inl (turnover.placed b (Option.mem_toList.1 new))

theorem Custody.performAll (custody : Custody given s) (reachable : s.Reachable)
    (operations : List Operation) :
    Custody (given ++ s.granted operations) (s.performAll operations) := by
  induction operations generalizing given s with
  | nil => rwa [granted, List.append_nil]
  | cons operation rest ih =>
    rw [granted, ← List.append_assoc]
    exact ih (custody.perform reachable operation) (reachable.perform operation)

theorem Reachable.performAll (reachable : s.Reachable) (operations : List Operation) :
    (s.performAll operations).Reachable := by
  induction operations generalizing s with
  | nil => exact reachable
  | cons operation rest ih => exact ih (reachable.perform operation)

theorem gone_performAll {loan : Loan} (gone : s.backend.Gone loan) (operations : List Operation) :
    (s.performAll operations).backend.Gone loan :=
  holds_performAll (P := fun v : Session Simulator => v.backend.Gone loan)
    (fun operation _ gone => gone_perform gone operation) gone operations

/-- Of the buffers that were given during a history those of the arguments are left: no other is
there. -/
theorem Custody.contains_iff (custody : Custody given s) (reachable : s.Reachable) (b : BufferHandle) :
    b ∈ given ∧ s.backend.buffers.contains b = true ↔ s.buffers.Has b := by
  constructor
  · rintro ⟨mem, there⟩
    refine (custody.gone b mem).resolve_right fun gone => ?_
    have absent : s.backend.buffers.contains b = false := gone.absent
    rw [there] at absent
    contradiction
  · rintro ⟨index, c, found, rfl⟩
    have backed := (sound_of_reachable reachable).1.buffers
    exact ⟨(custody.held index c found).1, backed.live index c found⟩

/-- A session and its simulator agree on buffers. A session begins, and any operations follow, of
which any may fail. Then of the buffers that the simulator gave to the session those are there whose
handles its manager has; no two arguments have one buffer; each buffer was allocated with the size
that the manager knows, and both its memories have that size; and a buffer that left its place at
any time is not there any more. -/
theorem custody_exact {backend : Simulator} {image : Image} {config : SessionConfig}
    (reachable : backend.Reachable) (started : start image config backend = .ok s)
    (operations : List Operation) :
    let t := s.performAll operations
    (∀ b, b ∈ s.granted operations ∧ t.backend.buffers.contains b = true ↔
      ∃ index c, t.buffers.buffers.get? index = some c ∧ c.handle = b) ∧
    (∀ i j c d, t.buffers.buffers.get? i = some c → t.buffers.buffers.get? j = some d →
      c.handle = d.handle → i = j) ∧
    (∀ index c, t.buffers.buffers.get? index = some c →
      ∃ u, t.backend.buffers.get? c.handle = some u ∧ u.allocation.size = c.size ∧
        u.host.size = c.size ∧ u.device.size = c.size) ∧
    ∀ earlier operation later, operations = earlier ++ operation :: later →
      ∀ index c, (s.performAll earlier).buffers.buffers.get? index = some c →
        (s.performAll (earlier ++ [operation])).buffers.buffers.get? index ≠ some c →
        t.backend.buffers.contains c.handle = false := by
  intro t
  have begun := Reachable.start reachable started
  have reached : t.Reachable := begun.performAll operations
  have backed := (sound_of_reachable reached).1.buffers
  have custody : Custody (s.granted operations) t := (custody_of_start started).performAll begun _
  refine ⟨custody.contains_iff reached, backed.distinct, fun index c found => ?_, ?_⟩
  · obtain ⟨u, there⟩ := Table.contains_iff.1 (backed.live index c found)
    have sized := reached.backend.sized c.handle u there
    have size : u.allocation.size = c.size := by
      refine (custody.held index c found).2.size u.allocation ?_
      rw [Simulator.allocation?, there, Option.map_some]
    exact ⟨u, there, size, sized.host.trans size, sized.device.trans size⟩
  · rintro earlier operation later rfl index c had replaced
    have turnover := turnover_perform (begun.performAll earlier) operation
    have after : s.performAll (earlier ++ [operation]) =
        stateOf (operation.perform (s.performAll earlier)) := by
      rw [Session.performAll, List.foldl_append]
      rfl
    have rest : t = (stateOf (operation.perform (s.performAll earlier))).performAll later :=
      List.foldl_append
    rw [after] at replaced
    have gone := (turnover.left index c had).resolve_left replaced
    rw [rest]
    exact (gone_performAll gone later).absent

/-- What is done until a buffer is pending for a copy. -/
def copying : List Operation :=
  [.createBuffer ⟨0, .readWrite, 16, none, .none⟩, .write]

/-- The buffer is exchanged for another one then, and the finish fails for that. -/
def exchanged : List Operation :=
  copying ++ .createBuffer ⟨0, .readOnly, 32, none, .none⟩ :: [.finish]

theorem custody_exact_exchanged :
    (oneArgument.host []).Reachable ∧
    start oneArgument {} (oneArgument.host []) = .ok (begun oneArgument [] {}) ∧
    (begun oneArgument [] {}).granted exchanged = [⟨5⟩, ⟨7⟩] ∧
    ((∃ index c, ((begun oneArgument [] {}).performAll exchanged).buffers.buffers.get? index = some c ∧
        c.handle = ⟨7⟩) ↔
      ((begun oneArgument [] {}).performAll exchanged).backend.buffers.contains ⟨7⟩ = true) ∧
    ((begun oneArgument [] {}).performAll exchanged).backend.buffers.contains ⟨5⟩ = false := by
  have reachable : (oneArgument.host []).Reachable := .start ⟨rfl, rfl, rfl, rfl, rfl, rfl, rfl⟩
  have started := start_oneArgument []
  have given : (begun oneArgument [] {}).granted exchanged = [⟨5⟩, ⟨7⟩] := by decide +kernel
  have had : ((begun oneArgument [] {}).performAll copying).buffers.buffers.get? 0 =
      some ⟨⟨5⟩, 16, .readWrite, .bank "HBM[0]" 0x80000000⟩ := by
    decide +kernel
  have replaced : ((begun oneArgument [] {}).performAll
      (copying ++ [.createBuffer ⟨0, .readOnly, 32, none, .none⟩])).buffers.buffers.get? 0 ≠
      some ⟨⟨5⟩, 16, .readWrite, .bank "HBM[0]" 0x80000000⟩ := by
    decide +kernel
  obtain ⟨agree, -, -, gone⟩ := custody_exact reachable started exchanged
  have there := agree ⟨7⟩
  rw [given] at there
  refine ⟨reachable, started, given, ?_, gone copying _ _ rfl 0 _ had replaced⟩
  exact there.symm.trans (and_iff_right (by decide))

end Session

end FpgaHost
