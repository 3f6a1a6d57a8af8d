import FpgaHost.Session.Attempt

/-!
# Calls step by step

A call and an attempt are both a sequence of steps on a state. This module says how a sequence
unfolds: a look at the state and a change of it always go on, a check goes on or fails and leaves
the state as it is. The lemmas are equations between outcomes, so a whole call is brought by
rewriting into the form of a decision over its checks.

Main statements: `bind_eq_ok_iff` (a sequence succeeds exactly if its parts do), and the equations
`refuseIf_bind` and `require_bind` for the two checks.
-/

namespace FpgaHost

variable {ε σ τ α β : Type}

/-! ### Sequences -/

namespace Steps

/-- The state that a sequence leaves, whether it succeeds or not. -/
def stateOf : EStateM.Result ε σ α → σ
  | .ok _ s => s
  | .error _ s => s

@[simp] theorem stateOf_ok (a : α) (s : σ) : stateOf (.ok a s : EStateM.Result ε σ α) = s := rfl

@[simp] theorem stateOf_error (e : ε) (s : σ) :
    stateOf (.error e s : EStateM.Result ε σ α) = s := rfl

/-- An outcome in another state. -/
def mapState (f : σ → τ) : EStateM.Result ε σ α → EStateM.Result ε τ α
  | .ok a s => .ok a (f s)
  | .error e s => .error e (f s)

theorem stateOf_mapState (f : σ → τ) (outcome : EStateM.Result ε σ α) :
    stateOf (mapState f outcome) = f (stateOf outcome) := by
  cases outcome <;> rfl

theorem bind_apply (x : EStateM ε σ α) (f : α → EStateM ε σ β) (s : σ) :
    (x >>= f) s = match x s with
      | .ok a t => f a t
      | .error e t => .error e t := rfl

theorem pure_apply (a : α) (s : σ) : (pure a : EStateM ε σ α) s = .ok a s := rfl

theorem get_bind (f : σ → EStateM ε σ β) (s : σ) : (get >>= f) s = f s s := rfl

theorem set_bind (t : σ) (f : PUnit → EStateM ε σ β) (s : σ) : (set t >>= f) s = f ⟨⟩ t := rfl

theorem set_apply (t s : σ) : (set t : EStateM ε σ PUnit) s = .ok ⟨⟩ t := rfl

theorem modify_bind (g : σ → σ) (f : PUnit → EStateM ε σ β) (s : σ) :
    (modify g >>= f) s = f ⟨⟩ (g s) := rfl

theorem modify_apply (g : σ → σ) (s : σ) : (modify g : EStateM ε σ PUnit) s = .ok ⟨⟩ (g s) := rfl

/-- A sequence succeeds exactly if its first part does and the rest does from there. -/
theorem bind_eq_ok_iff {x : EStateM ε σ α} {f : α → EStateM ε σ β} {s t : σ} {b : β} :
    (x >>= f) s = .ok b t ↔ ∃ a u, x s = .ok a u ∧ f a u = .ok b t := by
  rw [bind_apply]
  cases x s with
  | error e u =>
    constructor
    · rintro ⟨⟩
    · rintro ⟨a, u, ⟨⟩, -⟩
  | ok a u =>
    constructor
    · exact fun h => ⟨a, u, rfl, h⟩
    · rintro ⟨a, u, ⟨⟩, h⟩
      exact h

theorem bind_of_ok {x : EStateM ε σ α} {s t : σ} {a : α} (h : x s = .ok a t)
    (f : α → EStateM ε σ β) : (x >>= f) s = f a t := by
  rw [bind_apply, h]

theorem tryCatch_apply (x : EStateM ε σ α) (handle : ε → EStateM ε σ α) (s : σ) :
    tryCatch x handle s = match x s with
      | .ok a t => .ok a t
      | .error e t => handle e t := by
  change EStateM.tryCatch x handle s = _
  delta EStateM.tryCatch
  cases x s <;> rfl

theorem discard_apply (x : EStateM ε σ α) (s : σ) :
    discard x s = match x s with
      | .ok _ t => .ok () t
      | .error e t => .error e t := rfl

theorem discard_of_ok {x : EStateM ε σ α} {s t : σ} {a : α} (h : x s = .ok a t) :
    discard x s = .ok () t := by
  rw [discard_apply, h]

theorem stateOf_discard (x : EStateM ε σ α) (s : σ) : stateOf (discard x s) = stateOf (x s) := by
  rw [discard_apply]
  cases x s <;> rfl

theorem bind_throw (x : EStateM ε σ α) (e : ε) (s : σ) :
    ∃ e' t, (x >>= fun _ => (throw e : EStateM ε σ β)) s = .error e' t := by
  rw [bind_apply]
  cases x s with
  | error e' t => exact ⟨e', t, rfl⟩
  | ok a t => exact ⟨e, t, rfl⟩

end Steps

/-! ### Requests -/

namespace Request

/-- The queue that a request puts a command into, or starts. -/
def queue? : Request → Option QueueHandle
  | .enqueueMigrate queue _ _ _ => some queue
  | .enqueueTask queue _ _ => some queue
  | .flush queue => some queue
  | .finish queue => some queue
  | _ => none

/-- The state of a backend after a request, whether it is answered or refused. -/
def after [ComputeApi σ] (r : Request) (s : σ) : σ := Steps.stateOf (ComputeApi.call r s)

end Request

/-! ### Checks -/

namespace Call

theorem refuseIf_bind (condition : Bool) (status : Status) (f : Unit → Call σ α) (s : σ) :
    (refuseIf condition status >>= f) s = if condition then .error status s else f () s := by
  cases condition <;> rfl

theorem require_bind (value : Option α) (status : Status) (f : α → Call σ β) (s : σ) :
    (require value status >>= f) s = match value with
      | none => .error status s
      | some a => f a s := by
  cases value <;> rfl

theorem require_apply (value : Option α) (status : Status) (s : σ) :
    require value status s = match value with
      | none => .error status s
      | some a => .ok a s := by
  cases value <;> rfl

end Call

end FpgaHost
