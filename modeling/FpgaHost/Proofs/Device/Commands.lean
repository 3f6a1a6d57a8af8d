import FpgaHost.Proofs.Device.Ledger
import FpgaHost.Session.Stage

/-!
# Commands that a backend accepts

A backend accepts a command with the answer that hands out its event. Each serves a stage, and names
the events that it waits for. The history of an instrumented backend tells which commands it has
accepted. Any property of a backend and of the commands accepted so far that goes along with
requests is a `Recording`, as is what the history tells (`recording_history`).
-/

namespace FpgaHost

open Steps

/-! ### Accepted commands -/

/-- A command that a backend has accepted. -/
structure StageCommand where
  /-- The stage that it serves. -/
  stage : Stage
  /-- Its event. -/
  event : EventHandle
  /-- The events that it waits for. -/
  wait : List EventHandle
  deriving DecidableEq, Repr

/-- The stage that a migration serves. -/
def Direction.stage : Direction → Stage
  | .toDevice => .load
  | .toHost => .store

/-- The commands that a backend accepts with an answer. -/
def Request.commands : (r : Request) → Except Status r.Answer → List StageCommand
  | .enqueueMigrate _ _ direction wait, .ok event => [⟨direction.stage, event, wait⟩]
  | .enqueueTask _ _ wait, .ok event => [⟨.compute, event, wait⟩]
  | _, _ => []

theorem Request.commands_error (r : Request) (status : Status) : r.commands (.error status) = [] := by
  cases r <;> rfl

theorem Request.commands_of_queue?_eq_none {r : Request} (none : r.queue? = none) (outcome) :
    r.commands outcome = [] := by
  cases r <;> first | rfl | contradiction

/-- The commands accepted in a history, the latest first. -/
def commandsOf (history : List CallRecord) : List StageCommand :=
  history.flatMap fun call => call.request.commands call.outcome

/-! ### Wrappers without instruments -/

namespace Instrumented

variable {σ : Type} [ComputeApi σ] {s t : Instrumented σ} {r : Request}

/-- The requests so far, in order. -/
def requests {σ : Type} (s : Instrumented σ) : List Request := (s.history.map (·.request)).reverse

/-- A wrapper without instruments lets the backend answer. -/
theorem outcome_of_plain (plain : s.instruments = {}) (r : Request) :
    s.outcome r = match ComputeApi.call r s.inner with
      | .ok answer inner => (.ok answer, inner)
      | .error status inner => (.error status, inner) := by
  have fault : s.fault? r.method = none := by rw [fault?, plain]; rfl
  have replaced : override? {} r = none := by cases r <;> rfl
  have same : ∀ answer, amend {} r answer = answer := by
    intro answer
    cases r <;> rfl
  rw [outcome, fault, plain, replaced, forward, plain]
  cases ComputeApi.call r s.inner with
  | ok answer inner => exact congrArg (fun answer => (Except.ok answer, inner)) (same answer)
  | error status inner => rfl

theorem call_ok (plain : s.instruments = {}) {answer : r.Answer}
    (called : ComputeApi.call r s = .ok answer t) :
    ComputeApi.call r s.inner = .ok answer t.inner ∧ t.instruments = {} ∧
      t.requests = s.requests ++ [r] := by
  rw [call_eq, outcome_of_plain plain] at called
  cases asked : ComputeApi.call r s.inner with
  | ok answer' inner =>
    rw [asked] at called
    cases called
    exact ⟨rfl, plain, by simp [requests]⟩
  | error status inner =>
    rw [asked] at called
    contradiction

theorem call_error (plain : s.instruments = {}) {status : Status}
    (called : ComputeApi.call r s = .error status t) :
    ComputeApi.call r s.inner = .error status t.inner ∧ t.instruments = {} ∧
      t.requests = s.requests ++ [r] := by
  rw [call_eq, outcome_of_plain plain] at called
  cases asked : ComputeApi.call r s.inner with
  | ok answer inner =>
    rw [asked] at called
    contradiction
  | error status' inner =>
    rw [asked] at called
    cases called
    exact ⟨rfl, plain, by simp [requests]⟩

end Instrumented

/-! ### Recordings -/

/-- A property of a backend and of the commands accepted so far that goes along with every
request. -/
structure Recording {τ : Type} [ComputeApi τ] (H : List StageCommand → τ → Prop) : Prop where
  /-- The command that is accepted with an answer is the latest. -/
  answered : ∀ {done : List StageCommand} {s t : τ} {r : Request} {answer : r.Answer},
    ComputeApi.call r s = .ok answer t → H done s → H (r.commands (.ok answer) ++ done) t
  /-- Nothing is accepted with a refusal. -/
  refused : ∀ {done : List StageCommand} {s t : τ} {r : Request} {status : Status},
    ComputeApi.call r s = .error status t → H done s → H done t

/-- A request that submits nothing leaves what was accepted as it is. -/
theorem Recording.idle {τ : Type} [ComputeApi τ] {H : List StageCommand → τ → Prop}
    (recording : Recording H) {done : List StageCommand} {s : τ} {r : Request} (h : H done s)
    (submits : ∀ outcome, r.commands outcome = []) : H done (r.after s) := by
  rw [Request.after]
  cases outcome : ComputeApi.call r s with
  | ok answer t =>
    have after := recording.answered outcome h
    rwa [submits] at after
  | error status t => exact recording.refused outcome h

/-- What the history of an instrumented backend tells is such a property. -/
theorem recording_history {σ : Type} [ComputeApi σ] :
    Recording fun done (s : Instrumented σ) => commandsOf s.history = done where
  answered {done s t r answer} outcome h := by
    rw [call_eq] at outcome
    dsimp only at outcome
    cases accepted : (s.outcome r).1 with
    | ok answer' =>
      rw [accepted] at outcome
      cases outcome
      rw [← h]
      rfl
    | error status =>
      rw [accepted] at outcome
      contradiction
  refused {done s t r status} outcome h := by
    rw [call_eq] at outcome
    dsimp only at outcome
    cases accepted : (s.outcome r).1 with
    | ok answer =>
      rw [accepted] at outcome
      contradiction
    | error status' =>
      rw [accepted] at outcome
      cases outcome
      rw [commandsOf, List.flatMap_cons, Request.commands_error]
      exact h

end FpgaHost
