import FpgaHost.Device.Instrumented
import FpgaHost.Proofs.Device.Calls
import Mathlib.Data.List.Nodup

/-!
# What a backend lends

A backend lends contexts, buffers and events: each is handed out by one answer and is to be given
back by one request, which counts also if it fails. The history of an instrumented backend tells
what was lent and what was given back, so that a ledger (`Balanced`) can be kept of what is still
held. Asking for anything moves entries of the ledger from one side to the other and never breaks
it (`Balanced.called`), whatever the backend answers. Any property of a backend and of what is held
that goes along with requests in this way is an `Accounting`.

Main statement: `Balanced.accounted`, by which the ledger of a backend that hands out fresh handles
counts every handle once.
-/

namespace FpgaHost

open Steps Attempt

/-! ### Lending and giving back -/

/-- Something that a backend lends. -/
inductive Loan where
  /-- A device in use. -/
  | context (handle : ContextHandle)
  /-- A buffer. -/
  | buffer (handle : BufferHandle)
  /-- An event. -/
  | event (handle : EventHandle)
  deriving DecidableEq, Repr

/-- What a backend lends with an answer. -/
def Request.lends : (r : Request) → Except Status r.Answer → List Loan
  | .createContext _, .ok context => [.context context]
  | .createBuffer _ _ _ _ _, .ok buffer => [.buffer buffer]
  | .enqueueMigrate _ _ _ _, .ok event => [.event event]
  | .enqueueTask _ _ _, .ok event => [.event event]
  | _, _ => []

/-- What a request gives back, whether it succeeds or not. -/
def Request.returns : Request → List Loan
  | .releaseContext context => [.context context]
  | .releaseBuffer buffer => [.buffer buffer]
  | .releaseEvent event => [.event event]
  | _ => []

theorem Request.lends_error (r : Request) (status : Status) : r.lends (.error status) = [] := by
  cases r <;> rfl

/-- What was lent in a history. -/
def lent (history : List CallRecord) : List Loan :=
  history.flatMap fun call => call.request.lends call.outcome

/-- What was given back in a history. -/
def returned (history : List CallRecord) : List Loan :=
  history.flatMap fun call => call.request.returns

/-- All that was lent was given back once, and nothing else was given back. -/
structure Settled (history : List CallRecord) : Prop where
  /-- Each loan was given back once. -/
  once : ∀ loan ∈ lent history, (returned history).count loan = 1
  /-- Nothing else was given back. -/
  others : ∀ loan, loan ∉ lent history → loan ∉ returned history

/-- All that was lent is either held or was given back once, and nothing else was given back. -/
structure Accounted (held : List Loan) (history : List CallRecord) : Prop where
  /-- A loan that is held was not given back. -/
  kept : ∀ loan ∈ lent history, loan ∈ held → loan ∉ returned history
  /-- A loan that is not held was given back once. -/
  once : ∀ loan ∈ lent history, loan ∉ held → (returned history).count loan = 1
  /-- Nothing else was given back. -/
  others : ∀ loan, loan ∉ lent history → loan ∉ returned history

/-! ### Ledgers -/

variable {σ : Type} [ComputeApi σ] {start s : Instrumented σ} {held : List Loan}
  {r : Request}

/-- The state of a backend after some requests, whether they are answered or refused. -/
def Request.afterAll (requests : List Request) (s : Instrumented σ) : Instrumented σ :=
  requests.foldl (fun s r => r.after s) s

/-- A backend that has not been asked for anything hands out fresh handles: whatever it is asked
for, it never lends the same thing twice. -/
structure Instrumented.HandsOutFresh (s : Instrumented σ) : Prop where
  /-- It has not been asked for anything. -/
  unused : s.history = []
  /-- It never lends the same thing twice. -/
  fresh : ∀ requests, (lent (Request.afterAll requests s).history).Nodup

/-- The ledger of a backend that has been in use since `start`: what was given back and what is
still held is all that was lent. -/
structure Balanced (start : Instrumented σ) (held : List Loan) (s : Instrumented σ) : Prop where
  /-- Requests have led here. -/
  reached : ∃ requests, Request.afterAll requests start = s
  /-- The two sides agree. -/
  sides : (returned s.history ++ held).Perm (lent s.history)

theorem Balanced.perm (balanced : Balanced start held s) {other : List Loan}
    (same : held.Perm other) : Balanced start other s :=
  ⟨balanced.reached, (same.symm.append_left _).trans balanced.sides⟩

/-- The ledger begins empty. -/
theorem balanced_of_unused (unused : start.history = []) : Balanced start [] start := by
  refine ⟨⟨[], rfl⟩, ?_⟩
  rw [unused]
  exact .refl _

/-- A balanced ledger of fresh handles counts every handle once. -/
theorem Balanced.accounted (balanced : Balanced start held s) (fresh : start.HandsOutFresh) :
    Accounted held s.history := by
  obtain ⟨⟨requests, rfl⟩, sides⟩ := balanced
  have nodup := fresh.fresh requests
  generalize (Request.afterAll requests start).history = history at sides nodup
  have distinct := sides.nodup_iff.2 nodup
  obtain ⟨once, -, disjoint⟩ := List.nodup_append.1 distinct
  refine ⟨fun loan _ mine back => disjoint loan back loan mine rfl, ?_, ?_⟩
  · intro loan member absent
    have somewhere := List.mem_append.1 (sides.mem_iff.2 member)
    exact List.count_eq_one_of_mem once (somewhere.resolve_right absent)
  · exact fun loan absent back => absent (sides.mem_iff.1 (List.mem_append_left _ back))

/-- With nothing held, all is settled. -/
theorem Balanced.settled (balanced : Balanced start [] s) (fresh : start.HandsOutFresh) :
    Settled s.history :=
  have accounted := balanced.accounted fresh
  ⟨fun loan member => accounted.once loan member List.not_mem_nil, accounted.others⟩

/-! ### Requests -/

/-- A request is put into the history with its outcome. -/
theorem call_eq (r : Request) (s : Instrumented σ) :
    ComputeApi.call r s =
      let t : Instrumented σ :=
        { s with inner := (s.outcome r).2, history := ⟨r, (s.outcome r).1⟩ :: s.history }
      match (s.outcome r).1 with
      | .ok answer => .ok answer t
      | .error status => .error status t := rfl

/-- A request gives back what it names, and an answer adds what it lends to what is held. -/
theorem Balanced.called (balanced : Balanced start (r.returns ++ held) s) :
    match ComputeApi.call r s with
    | .ok answer t => Balanced start (r.lends (.ok answer) ++ held) t
    | .error _ t => Balanced start held t := by
  obtain ⟨⟨requests, reached⟩, sides⟩ := balanced
  have after : Request.afterAll (requests ++ [r]) start = r.after s := by
    rw [Request.afterAll, List.foldl_append]
    exact congrArg r.after reached
  rw [Request.after, call_eq] at after
  rw [call_eq]
  dsimp only at after ⊢
  have moved : ∀ outcome : Except Status r.Answer,
      ((r.returns ++ returned s.history) ++ (r.lends outcome ++ held)).Perm
        (r.lends outcome ++ lent s.history) := by
    intro outcome
    rw [List.perm_iff_count] at sides ⊢
    intro loan
    have same := sides loan
    simp only [List.count_append] at same ⊢
    omega
  cases outcome : (s.outcome r).1 with
  | ok answer =>
    rw [outcome] at after
    exact ⟨⟨_, after⟩, moved (.ok answer)⟩
  | error status =>
    rw [outcome] at after
    have sides := moved (.error status)
    rw [Request.lends_error] at sides
    refine ⟨⟨_, after⟩, ?_⟩
    rw [returned, lent, List.flatMap_cons, List.flatMap_cons, Request.lends_error]
    exact sides

/-! ### Accountings -/

/-- A property of a backend and of what is held of it that goes along with every request. -/
structure Accounting {τ : Type} [ComputeApi τ] (H : List Loan → τ → Prop) : Prop where
  /-- The order of what is held does not matter. -/
  perm : ∀ {held other : List Loan} {s : τ}, H held s → held.Perm other → H other s
  /-- An answer takes back what the request names and lends. -/
  answered : ∀ {held : List Loan} {s t : τ} {r : Request} {answer : r.Answer},
    ComputeApi.call r s = .ok answer t → H (r.returns ++ held) s → H (r.lends (.ok answer) ++ held) t
  /-- What a request gives back counts as given back also if it is refused. -/
  refused : ∀ {held : List Loan} {s t : τ} {r : Request} {status : Status},
    ComputeApi.call r s = .error status t → H (r.returns ++ held) s → H held t

/-- A balanced ledger is such a property. -/
theorem accounting_balanced (start : Instrumented σ) : Accounting (Balanced start) where
  perm balanced same := balanced.perm same
  answered outcome balanced := by
    have called := balanced.called
    rwa [outcome] at called
  refused outcome balanced := by
    have called := balanced.called
    rwa [outcome] at called

/-- What others hold stays beside what is held. -/
theorem Accounting.beside {τ : Type} [ComputeApi τ] {H : List Loan → τ → Prop}
    (accounting : Accounting H) (others : List Loan) : Accounting fun held => H (held ++ others) where
  perm h same := accounting.perm h (same.append_right others)
  answered called h := by
    rw [List.append_assoc] at h ⊢
    exact accounting.answered called h
  refused called h := by
    rw [List.append_assoc] at h
    exact accounting.refused called h

/-- A request that neither lends nor takes anything back leaves what is held as it is. -/
theorem Accounting.idle {τ : Type} [ComputeApi τ] {H : List Loan → τ → Prop}
    (accounting : Accounting H) {s : τ} (h : H held s) (lends : ∀ outcome, r.lends outcome = [])
    (returns : r.returns = []) : H held (r.after s) := by
  have before : H (r.returns ++ held) s := by rwa [returns]
  rw [Request.after]
  cases outcome : ComputeApi.call r s with
  | ok answer t =>
    have after := accounting.answered outcome before
    rwa [lends] at after
  | error status t => exact accounting.refused outcome before

end FpgaHost
