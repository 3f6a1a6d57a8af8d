import FpgaHost.Device.Api
import FpgaHost.Session.Error

/-!
# Attempts

An operation of a session is an attempt: it changes a state and answers a value or a session error.
A failing attempt keeps what it has changed, as a failing call does. `ask` makes a call and turns
the status of a failure into a session error, `tryCall` hands the status on as a value, and `within`
lets an attempt work on a part of a larger state.
-/

namespace FpgaHost

/-- A computation on a state that may fail with a session error. -/
abbrev Attempt (σ α : Type) := EStateM SessionError σ α

namespace Attempt

variable {σ τ α : Type}

/-- Makes a call and answers its outcome. -/
def tryCall [ComputeApi σ] (r : Request) : Attempt σ (Except Status r.Answer) := fun s =>
  match ComputeApi.call r s with
  | .ok answer s => .ok (.ok answer) s
  | .error status s => .ok (.error status) s

/-- Makes a call; a failure is reported as one of the operation `method`. -/
def askAs [ComputeApi σ] (method : Method) (r : Request) : Attempt σ r.Answer := do
  match ← tryCall r with
  | .ok answer => return answer
  | .error status => throw (.call method status)

/-- Makes a call. -/
def ask [ComputeApi σ] (r : Request) : Attempt σ r.Answer := askAs r.method r

/-- Works on a part of a state, given how to look at the part and how to put it back. -/
def within (part : σ → τ) (replace : τ → σ → σ) (x : Attempt τ α) : Attempt σ α := fun s =>
  match x (part s) with
  | .ok a t => .ok a (replace t s)
  | .error e t => .error e (replace t s)

/-- Works on the second part of a pair. -/
def onSecond (x : Attempt τ α) : Attempt (σ × τ) α := within (·.2) (fun t s => (s.1, t)) x

/-- The state that an attempt leaves, whether it succeeds or not. -/
def after (x : Attempt σ α) (s : σ) : σ :=
  match x s with
  | .ok _ s => s
  | .error _ s => s

end Attempt

end FpgaHost
