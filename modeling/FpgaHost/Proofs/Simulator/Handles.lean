import FpgaHost.Proofs.Simulator.Chronicle
import FpgaHost.Proofs.Simulator.Refusals
import FpgaHost.Proofs.Simulator.Remains
import FpgaHost.Proofs.Simulator.Timing

/-!
# Handles that are gone

Contexts, queues, programs, kernels, buffers, events and streams are numbered in one sequence
(`number_call`). A context, buffer or event that was given back is `Gone`: it is not there, and its
number lies behind the next one, so that no happening brings it back (`Gone.next`). A request that
names it in its role is refused (`refused_of_absent`). That is so for an event also while its record
is kept for a pending command, since what is named is looked up among the events that are not given
back.

Main statement: `gone_for_good`.
-/

namespace FpgaHost

open Simulator Steps

/-! ### Handles in requests and answers -/

/-- The number of the handle that an answer hands out. -/
def Request.number? : (r : Request) → r.Answer → Option Nat
  | .createContext _, context => some context.id
  | .createQueue _ _ _, queue => some queue.id
  | .buildProgram _ _ _, build => some build.program.id
  | .createKernel _ _, kernel => some kernel.id
  | .createBuffer _ _ _ _ _, buffer => some buffer.id
  | .enqueueMigrate _ _ _ _, event => some event.id
  | .enqueueTask _ _ _, event => some event.id
  | .createStream _ _ _ _, stream => some stream.id
  | _, _ => none

/-- The buffer that a kernel argument is bound to. -/
def KernelArg.names : KernelArg → List Loan
  | .scalar _ => []
  | .buffer handle => [Loan.buffer handle]

/-- The contexts, buffers and events that a request names. -/
def Request.names : Request → List Loan
  | .releaseContext context => [.context context]
  | .createQueue context _ _ => [.context context]
  | .buildProgram context _ _ => [.context context]
  | .createBuffer context _ _ _ _ => [.context context]
  | .setKernelArg _ _ value => value.names
  | .releaseBuffer buffer => [.buffer buffer]
  | .hostMemory buffer => [.buffer buffer]
  | .overwriteHost buffer _ _ => [.buffer buffer]
  | .enqueueMigrate _ buffers _ wait => buffers.map .buffer ++ wait.map .event
  | .enqueueTask _ _ wait => wait.map .event
  | .profilingInfo event _ => [.event event]
  | .releaseEvent event => [.event event]
  | _ => []

/-- The number of the handle that a call handed out. -/
def CallRecord.number? (call : CallRecord) : Option Nat :=
  match call.outcome with
  | .ok answer => call.request.number? answer
  | .error _ => none

/-- What a request gives back is what it names. -/
theorem Request.names_of_returns {r : Request} {loan : Loan} (mem : loan ∈ r.returns) :
    loan ∈ r.names := by
  cases r <;> first | exact mem | contradiction

/-- A request that names something starts no queue. -/
theorem Request.starts?_of_names {r : Request} {loan : Loan} (mem : loan ∈ r.names) :
    r.starts? = none := by
  cases r <;> first | rfl | contradiction

/-- A request that gives something back lends nothing. -/
theorem Request.lends_of_returns {r : Request} {loan : Loan} (mem : loan ∈ r.returns)
    (outcome : Except Status r.Answer) : r.lends outcome = [] := by
  cases r <;> first | rfl | contradiction

namespace Simulator

variable {s t : Simulator} {r : Request} {loan : Loan}

/-! ### One sequence of numbers -/

theorem number_submission {queue : QueueHandle} {wait : List EventHandle}
    {outcome : EStateM.Result Status Simulator EventHandle}
    (submission : Submission s queue wait outcome) {event : EventHandle}
    (made : outcome = .ok event t) : event.id = s.nextId ∧ s.nextId < t.nextId := by
  cases submission with
  | refused status => contradiction
  | accepted command found =>
    cases made
    exact ⟨rfl, Nat.lt_succ_self _⟩

/-- The handle that an answer hands out has the next number. -/
theorem number_call {answer : r.Answer} (called : ComputeApi.call r s = .ok answer t) {number : Nat}
    (out : r.number? answer = some number) : number = s.nextId ∧ s.nextId < t.nextId := by
  cases r with
  | enqueueMigrate queue buffers direction wait =>
    cases out
    exact number_submission (submission_enqueueMigrate s queue buffers direction wait) called
  | enqueueTask queue kernel wait =>
    cases out
    exact number_submission (submission_enqueueTask s queue kernel wait) called
  | createContext _ | createQueue _ _ _ | buildProgram _ _ _ | createKernel _ _
  | createBuffer _ _ _ _ _ | createStream _ _ _ _ =>
    cases out
    simp only [ComputeApi.call, createContext_eq, createQueue_eq, buildProgram_eq, createKernel_eq,
      createBuffer_eq, createStream_eq] at called
    repeat' split at called
    all_goals cases called
    exact ⟨rfl, Nat.lt_succ_self _⟩
  | _ => contradiction

/-! ### What is not there -/

theorem isNone_liveEvent? {event : EventHandle} (absent : s.there (.event event) = false) :
    (s.liveEvent? event).isNone = true := by
  rw [← Option.not_isSome]
  exact congrArg not absent

theorem isNone_buffer {buffer : BufferHandle} (absent : s.there (.buffer buffer) = false) :
    (s.buffers.get? buffer).isNone = true := by
  rw [← Option.not_isSome]
  exact congrArg not absent

/-- Something that is not there is among what a command is to wait for. -/
theorem awaits_absent {wait : List EventHandle} (absent : s.there loan = false)
    (named : loan ∈ wait.map Loan.event) : (wait.any fun e => (s.liveEvent? e).isNone) = true := by
  obtain ⟨event, mem, rfl⟩ := List.mem_map.1 named
  exact List.any_eq_true.2 ⟨event, mem, isNone_liveEvent? absent⟩

/-- There is something to be said against a request that names what is not there. -/
theorem objection_of_absent (absent : s.there loan = false) (named : loan ∈ r.names) :
    ∃ objection ∈ s.objections r, objection.holds = true := by
  cases r with
  | releaseContext _ | buildProgram _ _ _ | createBuffer _ _ _ _ _ =>
    cases List.mem_singleton.1 named
    exact ⟨_, List.mem_cons_self, congrArg not absent⟩
  | createQueue context device properties =>
    cases List.mem_singleton.1 named
    have none := Table.contains_eq_false_iff.1 absent
    exact ⟨_, List.mem_cons_self, by rw [none]; rfl⟩
  | setKernelArg kernel index value =>
    cases value with
    | scalar bytes => contradiction
    | buffer handle =>
      cases List.mem_singleton.1 named
      exact ⟨_, List.mem_cons_self, congrArg not absent⟩
  | releaseBuffer _ | hostMemory _ | overwriteHost _ _ _ =>
    cases List.mem_singleton.1 named
    exact ⟨_, List.mem_cons_self, isNone_buffer absent⟩
  | enqueueMigrate queue buffers direction wait =>
    rcases List.mem_append.1 named with moved | awaited
    · obtain ⟨buffer, mem, rfl⟩ := List.mem_map.1 moved
      refine ⟨_, List.mem_cons_of_mem _ List.mem_cons_self, ?_⟩
      exact List.any_eq_true.2 ⟨buffer, mem, congrArg not absent⟩
    · exact ⟨_, List.mem_cons_of_mem _ (List.mem_cons_of_mem _ List.mem_cons_self),
        awaits_absent absent awaited⟩
  | enqueueTask queue kernel wait =>
    exact ⟨_, List.mem_cons_of_mem _ List.mem_cons_self, awaits_absent absent named⟩
  | profilingInfo _ _ | releaseEvent _ =>
    cases List.mem_singleton.1 named
    exact ⟨_, List.mem_cons_self, isNone_liveEvent? absent⟩
  | _ => contradiction

/-- A request that names what is not there is refused and changes nothing. -/
theorem refused_of_absent (absent : s.there loan = false) (named : loan ∈ r.names) :
    ∃ status, ComputeApi.call r s = .error status s := by
  have verdict := verdict_call s (Request.starts?_of_names named)
  generalize ComputeApi.call r s = outcome at verdict
  cases verdict with
  | refused first => exact ⟨_, rfl⟩
  | answered answer t none =>
    obtain ⟨objection, mem, holds⟩ := objection_of_absent absent named
    have raised := List.findSome?_eq_none_iff.1 none objection mem
    simp [Objection.raised?, holds] at raised

/-! ### What is gone -/

/-- Something is not there, and its number was given out. -/
structure Gone (s : Simulator) (loan : Loan) : Prop where
  /-- It is not there. -/
  absent : s.there loan = false
  /-- Its number is not used again. -/
  issued : loan.id < s.nextId

theorem Numbered.issued (numbered : s.Numbered) (there : s.there loan = true) :
    loan.id < s.nextId := by
  cases loan with
  | context handle => exact numbered.contexts handle there
  | buffer handle => exact numbered.buffers handle there
  | event handle =>
    obtain ⟨record, found⟩ := Option.isSome_iff_exists.1 there
    have kept := (Option.filter_eq_some_iff.1 found).1
    exact numbered.events handle (Table.contains_iff.2 ⟨record, kept⟩)

/-- What a request gives back is not there afterwards, whether it was before or not. -/
theorem absent_next (s : Simulator) (returned : loan ∈ r.returns) :
    (s.next r).there loan = false := by
  have lends := s.lends_call r
  rw [next]
  by_contra remains
  rw [Bool.not_eq_false] at remains
  cases called : ComputeApi.call r s with
  | error status t =>
    rw [called] at lends remains
    exact (lends loan remains).2 returned
  | ok answer t =>
    rw [called] at lends remains
    rcases lends loan remains with lent | ⟨-, kept⟩
    · rw [Request.lends_of_returns returned] at lent
      contradiction
    · exact kept returned

/-- What was there and is given back is gone. -/
theorem Numbered.gone (numbered : s.Numbered) (there : s.there loan = true)
    (returned : loan ∈ r.returns) : (s.next r).Gone loan where
  absent := absent_next s returned
  issued := Nat.lt_of_lt_of_le (numbered.issued there) (does_next s r).nextId_le

/-- What an answered request gives back was there. -/
theorem there_of_answered {answer : r.Answer} (called : ComputeApi.call r s = .ok answer t)
    (returned : loan ∈ r.returns) : s.there loan = true := by
  by_contra absent
  obtain ⟨status, refused⟩ :=
    refused_of_absent (Bool.not_eq_true _ ▸ absent) (Request.names_of_returns returned)
  rw [refused] at called
  contradiction

/-- What is gone stays gone, whatever is asked for. -/
theorem Gone.next (gone : s.Gone loan) (r : Request) : (s.next r).Gone loan := by
  have upwards := (does_next s r).nextId_le
  refine ⟨?_, Nat.lt_of_lt_of_le gone.issued upwards⟩
  have lends := s.lends_call r
  by_contra remains
  rw [Bool.not_eq_false, Simulator.next] at remains
  have absent := gone.absent
  cases called : ComputeApi.call r s with
  | error status t =>
    rw [called] at lends remains
    rw [(lends loan remains).1] at absent
    contradiction
  | ok answer t =>
    rw [called] at lends remains
    rcases lends loan remains with lent | ⟨before, -⟩
    · obtain ⟨-, none | ⟨new, one, number, -⟩⟩ := numbers_call called
      · rw [none] at lent
        contradiction
      · rw [one, List.mem_singleton] at lent
        rw [← lent] at number
        exact Nat.ne_of_lt gone.issued number
    · rw [before] at absent
      contradiction

end Simulator

/-! ### Histories -/

namespace Chronicle

variable {c : Chronicle} {loan : Loan}

/-- The number of the handle that a happening hands out. -/
def handsOut? (c : Chronicle) : Happening → Option Nat
  | .request r => CallRecord.number? ⟨r, answerOf (ComputeApi.call r c.state)⟩
  | _ => none

/-- The numbers of the handles that are handed out by further happenings, in order. -/
def handedOut (c : Chronicle) : List Happening → List Nat
  | [] => []
  | h :: rest => (c.handsOut? h).toList ++ (c.next h).handedOut rest

/-- Numbers are given out upwards, whatever happens. -/
theorem nextId_le_next (c : Chronicle) (h : Happening) : c.state.nextId ≤ (c.next h).state.nextId := by
  cases h with
  | request r => exact (does_next c.state r).nextId_le
  | _ => exact Nat.le_refl _

/-- A handle that a happening hands out has the next number, which is passed by. -/
theorem number_next {h : Happening} {number : Nat} (out : c.handsOut? h = some number) :
    number = c.state.nextId ∧ c.state.nextId < (c.next h).state.nextId := by
  cases h with
  | request r =>
    rw [handsOut?, CallRecord.number?] at out
    cases called : ComputeApi.call r c.state with
    | error status t =>
      rw [called] at out
      contradiction
    | ok answer t =>
      rw [called] at out
      have after : (c.next (.request r)).state = t := by
        rw [next, asked, Simulator.next, called, stateOf_ok]
      rw [after]
      exact number_call called out
  | _ => contradiction

/-- Handles are handed out in the order of their numbers. -/
theorem handedOut_increasing (c : Chronicle) (history : List Happening) :
    (c.handedOut history).Pairwise (· < ·) ∧ ∀ n ∈ c.handedOut history, c.state.nextId ≤ n := by
  induction history generalizing c with
  | nil => exact ⟨.nil, nofun⟩
  | cons h rest ih =>
    obtain ⟨increasing, above⟩ := ih (c.next h)
    rw [handedOut]
    cases out : c.handsOut? h with
    | none => exact ⟨increasing, fun n mem => Nat.le_trans (c.nextId_le_next h) (above n mem)⟩
    | some number =>
      obtain ⟨rfl, passed⟩ := number_next out
      refine ⟨List.pairwise_cons.2 ⟨fun n mem => ?_, increasing⟩, List.forall_mem_cons.2 ⟨?_, ?_⟩⟩
      · exact Nat.lt_of_lt_of_le passed (above n mem)
      · exact Nat.le_refl _
      · exact fun n mem => Nat.le_trans (Nat.le_of_lt passed) (above n mem)

theorem gone_next (gone : c.state.Gone loan) (h : Happening) : (c.next h).state.Gone loan := by
  cases h with
  | request r => exact gone.next r
  | _ => cases loan <;> exact ⟨gone.absent, gone.issued⟩

/-- What is gone stays gone, whatever happens. -/
theorem gone_run (gone : c.state.Gone loan) (history : List Happening) :
    (c.run history).state.Gone loan := by
  induction history generalizing c with
  | nil => exact gone
  | cons h rest ih => exact ih (gone_next gone h)

/-- In every history the handles that are handed out have increasing numbers, so no two of them have
the same. Once a context, buffer or event was given back by a request that was answered, every
request that names it is refused and changes nothing, however much later it is made. -/
theorem gone_for_good (history : List Happening) :
    (handedOut {} history).Pairwise (· < ·) ∧
      ∀ (earlier later : List Happening) (r : Request),
        history = earlier ++ .request r :: later →
        answers (ComputeApi.call r (of earlier).state) = true →
        ∀ loan ∈ r.returns, ∀ r' : Request, loan ∈ r'.names →
          ∃ status, ComputeApi.call r' (of history).state = .error status (of history).state := by
  refine ⟨(handedOut_increasing {} history).1, ?_⟩
  rintro earlier later r rfl answered loan returned r' named
  have numbered := (sound_of earlier).reachable.numbered
  have gone : ((of earlier).next (.request r)).state.Gone loan := by
    cases called : ComputeApi.call r (of earlier).state with
    | error status t =>
      rw [called] at answered
      contradiction
    | ok answer t => exact numbered.gone (there_of_answered called returned) returned
  have later : (of (earlier ++ .request r :: later)).state.Gone loan := by
    rw [of_append]
    exact gone_run gone later
  exact refused_of_absent later.absent named

/-- Two copies of a buffer, of which the second waits for the first, and then the event of the first
copy is given back. -/
def copies : List Happening :=
  [.platform "xilinx" [{ name := "u200" }], .request (.createContext ⟨0⟩),
    .request (.createQueue ⟨1⟩ ⟨0⟩ {}), .request (.createBuffer ⟨1⟩ ⟨1⟩ 4 none none),
    .request (.enqueueMigrate ⟨2⟩ [⟨3⟩] .toDevice []),
    .request (.enqueueMigrate ⟨2⟩ [⟨3⟩] .toHost [⟨4⟩]), .request (.releaseEvent ⟨4⟩)]

/-- The record of the event is kept, since both copies are pending; no copy can be put into the
queue that waits for it. -/
theorem gone_for_good_copies :
    (handedOut {} copies).Pairwise (· < ·) ∧ handedOut {} copies = [1, 2, 3, 4, 5] ∧
      (of copies).state.events.contains ⟨4⟩ = true ∧
      ∃ status, ComputeApi.call (.enqueueMigrate ⟨2⟩ [⟨3⟩] .toHost [⟨5⟩, ⟨4⟩]) (of copies).state =
        .error status (of copies).state := by
  obtain ⟨increasing, refused⟩ := gone_for_good copies
  refine ⟨increasing, by decide, by decide, ?_⟩
  exact refused (copies.take 6) [] (.releaseEvent ⟨4⟩) rfl (by decide) (.event ⟨4⟩)
    (by decide) _ (by decide)

end Chronicle

end FpgaHost
