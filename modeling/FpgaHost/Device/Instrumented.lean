import FpgaHost.Device.Api

/-!
# Instrumented backends

A backend can be wrapped so that its users are seen, and are tried against failures that it never
has on its own. The wrapper keeps the history of all calls with their outcomes. A fault makes one
call of an operation, counted from one, fail with a given status before it reaches the backend
within; build statuses and the times of events can be set to anything.
-/

namespace FpgaHost

/-- A call and how it ended. -/
structure CallRecord where
  /-- What was asked. -/
  request : Request
  /-- What was answered. -/
  outcome : Except Status request.Answer

/-- A call that is to fail. -/
structure Fault where
  /-- The operation. -/
  method : Method
  /-- Which of its calls, the first being one. -/
  nth : Nat
  /-- The status it fails with. -/
  status : Status
  deriving DecidableEq, Repr

/-- What a wrapper does to a backend. -/
structure Instruments where
  /-- The calls that fail. -/
  faults : List Fault := []
  /-- The statuses that every build answers instead of its own. -/
  buildStatus : Option (List Status) := none
  /-- The times that are answered for events, whether their commands have run or not. -/
  times : Table EventHandle Timestamps := .empty

/-- A backend in a wrapper. -/
structure Instrumented (σ : Type) where
  /-- The backend. -/
  inner : σ
  /-- What is done to it. -/
  instruments : Instruments := {}
  /-- The calls so far, the latest first. -/
  history : List CallRecord := []

namespace Instrumented

variable {σ : Type}

/-- How often an operation was called. -/
def count (s : Instrumented σ) (m : Method) : Nat := s.history.countP (·.request.method = m)

/-- The operations called, in order. -/
def methods (s : Instrumented σ) : List Method := (s.history.map (·.request.method)).reverse

/-- The fault that the next call of an operation meets. -/
def fault? (s : Instrumented σ) (m : Method) : Option Status :=
  (s.instruments.faults.find? fun f => f.method = m && f.nth = s.count m + 1).map (·.status)

/-- The answer that the instruments give instead of the backend. -/
def override? (t : Instruments) : (r : Request) → Option r.Answer
  | .profilingInfo event instant => (t.times.get? event).map (·.time instant)
  | _ => none

/-- What the instruments make of an answer of the backend. -/
def amend (t : Instruments) : (r : Request) → r.Answer → r.Answer
  | .buildProgram _ _ _, build =>
    { build with deviceStatus := t.buildStatus.getD build.deviceStatus }
  | _, answer => answer

/-- Lets the backend answer a request. -/
def forward [ComputeApi σ] (s : Instrumented σ) (r : Request) : Except Status r.Answer × σ :=
  match ComputeApi.call r s.inner with
  | .ok answer inner => (.ok (amend s.instruments r answer), inner)
  | .error status inner => (.error status, inner)

/-- How a request is answered, and what becomes of the backend. -/
def outcome [ComputeApi σ] (s : Instrumented σ) (r : Request) : Except Status r.Answer × σ :=
  match s.fault? r.method with
  | some status => (.error status, s.inner)
  | none =>
    match override? s.instruments r with
    | some answer => (.ok answer, s.inner)
    | none => s.forward r

instance [ComputeApi σ] : ComputeApi (Instrumented σ) where
  call r := fun s =>
    let (outcome, inner) := s.outcome r
    let s := { s with inner, history := ⟨r, outcome⟩ :: s.history }
    match outcome with
    | .ok answer => .ok answer s
    | .error status => .error status s

end Instrumented

end FpgaHost
