import FpgaHost.Device.Request

/-!
# The device interface

A backend answers requests by changing a state. Every call may fail with a status, and whatever a
failing call has changed stays changed: the interface promises nothing else, so that faults of a
backend are part of every statement about its users.
-/

namespace FpgaHost

/-- A call: it changes the state of a backend and answers a value or a status. -/
abbrev Call (σ α : Type) := EStateM Status σ α

namespace Call

variable {σ α : Type}

/-- The value that must be there; without one the call fails with a status. -/
def require (value : Option α) (status : Status) : Call σ α :=
  match value with
  | none => throw status
  | some a => pure a

/-- Fails with a status if a condition holds. -/
def refuseIf (condition : Bool) (status : Status) : Call σ Unit :=
  if condition then throw status else pure ()

@[simp] theorem run_require_some (a : α) (status : Status) (s : σ) :
    (require (some a) status).run s = .ok a s := rfl

@[simp] theorem run_require_none (status : Status) (s : σ) :
    (require (none : Option α) status).run s = .error status s := rfl

@[simp] theorem run_refuseIf_true (status : Status) (s : σ) :
    (refuseIf true status).run s = .error status s := rfl

@[simp] theorem run_refuseIf_false (status : Status) (s : σ) :
    (refuseIf false status).run s = .ok () s := rfl

end Call

/-- A backend with states `σ`. -/
class ComputeApi (σ : Type) where
  /-- Answers a request. -/
  call : (r : Request) → Call σ r.Answer

end FpgaHost
