import FpgaHost.Proofs.Device.Ledger
import FpgaHost.Proofs.Simulator.History

/-!
# Fresh handles

A simulator numbers the handles that it hands out upwards, and never uses a number twice. So it
hands out fresh handles (`handsOutFresh`), also when some of its calls are made to fail.
-/

namespace FpgaHost

open Steps

/-- The number of the handle of a loan. -/
def Loan.id : Loan → Nat
  | context handle => handle.id
  | buffer handle => handle.id
  | event handle => handle.id

namespace Simulator

variable {s t : Simulator} {r : Request}

/-- What is lent on the way from one number to another: nothing, or one loan with the first. -/
def Numbers (first next : Nat) (loans : List Loan) : Prop :=
  first ≤ next ∧ (loans = [] ∨ ∃ loan, loans = [loan] ∧ loan.id = first ∧ first < next)

/-- A submission lends an event with the next number. -/
theorem numbers_submission {queue : QueueHandle} {wait : List EventHandle}
    {outcome : EStateM.Result Status Simulator EventHandle}
    (submission : Submission s queue wait outcome)
    {event : EventHandle} (made : outcome = .ok event t) :
    Numbers s.nextId t.nextId [.event event] := by
  cases submission with
  | refused status => contradiction
  | accepted command found =>
    cases made
    exact ⟨Nat.le_succ _, .inr ⟨_, rfl, rfl, Nat.lt_succ_self _⟩⟩

/-- What is lent with an answer has the next number. -/
theorem numbers_call {answer : r.Answer} (called : ComputeApi.call r s = .ok answer t) :
    Numbers s.nextId t.nextId (r.lends (.ok answer)) := by
  have upwards := (does_next s r).nextId_le
  rw [next, called, stateOf_ok] at upwards
  cases r with
  | enqueueMigrate queue buffers direction wait =>
    exact numbers_submission (submission_enqueueMigrate s queue buffers direction wait) called
  | enqueueTask queue kernel wait =>
    exact numbers_submission (submission_enqueueTask s queue kernel wait) called
  | createContext device =>
    have made : createContext device s = .ok answer t := called
    rw [createContext_eq] at made
    repeat' split at made
    all_goals cases made
    exact ⟨upwards, .inr ⟨_, rfl, rfl, Nat.lt_succ_self _⟩⟩
  | createBuffer context flags size host ext =>
    have made : createBuffer context flags size host ext s = .ok answer t := called
    rw [createBuffer_eq] at made
    repeat' split at made
    all_goals cases made
    exact ⟨upwards, .inr ⟨_, rfl, rfl, Nat.lt_succ_self _⟩⟩
  | _ => exact ⟨upwards, .inl rfl⟩

end Simulator

namespace Instrumented

variable {s : Instrumented Simulator}

theorem lends_amend (instruments : Instruments) (r : Request) (answer : r.Answer) :
    r.lends (.ok (amend instruments r answer)) = r.lends (.ok answer) := by
  cases r <;> rfl

theorem lends_override {instruments : Instruments} {r : Request} {answer : r.Answer}
    (h : override? instruments r = some answer) : r.lends (.ok answer) = [] := by
  cases r <;> first | rfl | contradiction

/-- So it is when instruments are put in between. -/
theorem numbers_outcome (s : Instrumented Simulator) (r : Request) :
    Simulator.Numbers s.inner.nextId (s.outcome r).2.nextId (r.lends (s.outcome r).1) := by
  rw [outcome]
  cases s.fault? r.method with
  | some status => exact ⟨Nat.le_refl _, .inl (r.lends_error status)⟩
  | none =>
    cases replaced : override? s.instruments r with
    | some answer => exact ⟨Nat.le_refl _, .inl (lends_override replaced)⟩
    | none =>
      dsimp only
      rw [forward]
      cases called : ComputeApi.call r s.inner with
      | ok answer t =>
        dsimp only
        rw [lends_amend]
        exact Simulator.numbers_call called
      | error status t =>
        have upwards := (Simulator.does_next s.inner r).nextId_le
        rw [Simulator.next, called] at upwards
        exact ⟨upwards, .inl (r.lends_error status)⟩

/-- All that was lent has its own number, below the next one. -/
structure Numbered (s : Instrumented Simulator) : Prop where
  /-- Below the next number. -/
  below : ∀ loan ∈ lent s.history, loan.id < s.inner.nextId
  /-- Not lent twice. -/
  nodup : (lent s.history).Nodup

theorem Numbered.after (numbered : s.Numbered) (r : Request) : (r.after s).Numbered := by
  have numbers := s.numbers_outcome r
  have history : (r.after s).history = ⟨r, (s.outcome r).1⟩ :: s.history := by
    rw [Request.after, call_eq]
    cases (s.outcome r).1 <;> rfl
  have inner : (r.after s).inner = (s.outcome r).2 := by
    rw [Request.after, call_eq]
    cases (s.outcome r).1 <;> rfl
  have more : lent (r.after s).history = r.lends (s.outcome r).1 ++ lent s.history := by
    rw [history]
    rfl
  have older : ∀ loan ∈ lent s.history, loan.id < (s.outcome r).2.nextId := fun loan mem =>
    Nat.lt_of_lt_of_le (numbered.below loan mem) numbers.1
  refine ⟨?_, ?_⟩
  · rw [more, inner]
    rcases numbers.2 with nothing | ⟨loan, one, here, next⟩
    · rwa [nothing]
    · rw [one]
      exact List.forall_mem_cons.2 ⟨here ▸ next, older⟩
  · rw [more]
    rcases numbers.2 with nothing | ⟨loan, one, here, -⟩
    · rw [nothing]
      exact numbered.nodup
    · rw [one]
      refine List.nodup_cons.2 ⟨fun mem => ?_, numbered.nodup⟩
      exact Nat.lt_irrefl _ (here ▸ numbered.below loan mem)

/-- A simulator hands out fresh handles, whichever of its calls are made to fail. -/
theorem handsOutFresh (unused : s.history = []) : s.HandsOutFresh := by
  have numbered : s.Numbered := by
    constructor <;> rw [unused]
    · nofun
    · exact .nil
  refine ⟨unused, fun requests => Numbered.nodup ?_⟩
  clear unused
  induction requests generalizing s with
  | nil => exact numbered
  | cons r rest ih => exact ih (numbered.after r)

end Instrumented

end FpgaHost
