import FpgaHost.Proofs.Simulator.Reachable
import FpgaHost.Session.Basic

/-!
# Attempts step by step

An attempt asks its backend for one request after the other, and attempts on a part of a session
leave the rest of it alone. This module gives the equations for both, and two calculi: by
`Preserves` an attempt keeps what each of its steps keeps, whether it ends well or not, and by
`Ensures` it ends with one thing true if it ends well and with another if it fails.

Main statements: `ask_apply` (asking is a request), `Preserves.bind`, `Ensures.bind`.
-/

namespace FpgaHost

open Steps

/-! ### What an attempt keeps -/

/-- An attempt that starts where a property holds ends where it holds, also if it fails. -/
def Preserves {ε σ α : Type} (P : σ → Prop) (x : EStateM ε σ α) : Prop :=
  ∀ s, P s → P (stateOf (x s))

namespace Preserves

variable {ε σ τ α β : Type} {P : σ → Prop}

theorem pure (a : α) : Preserves P (Pure.pure a : EStateM ε σ α) := fun _ h => h

theorem throw (e : ε) : Preserves P (MonadExcept.throw e : EStateM ε σ α) := fun _ h => h

theorem get : Preserves P (MonadState.get : EStateM ε σ σ) := fun _ h => h

theorem bind {x : EStateM ε σ α} {f : α → EStateM ε σ β} (first : Preserves P x)
    (rest : ∀ a, Preserves P (f a)) : Preserves P (x >>= f) := by
  intro s h
  have after := first s h
  rw [bind_apply]
  cases ran : x s with
  | error e t =>
    rw [ran] at after
    exact after
  | ok a t =>
    rw [ran] at after
    exact rest a t after

/-- A failure may be dealt with. -/
theorem tryCatch {x : EStateM ε σ α} {handle : ε → EStateM ε σ α} (first : Preserves P x)
    (rest : ∀ e, Preserves P (handle e)) : Preserves P (MonadExcept.tryCatch x handle) := by
  intro s h
  have after := first s h
  rw [tryCatch_apply]
  cases ran : x s with
  | ok a t =>
    rw [ran] at after
    exact after
  | error e t =>
    rw [ran] at after
    exact rest e t after

theorem discard {x : EStateM ε σ α} (h : Preserves P x) : Preserves P (discard x) := by
  intro s hs
  rw [stateOf_discard]
  exact h s hs

theorem of_discard {x : EStateM ε σ α} (h : Preserves P (Functor.discard x)) : Preserves P x := by
  intro s hs
  rw [← stateOf_discard]
  exact h s hs

theorem modify {f : σ → σ} (keeps : ∀ s, P s → P (f s)) :
    Preserves P (modify f : EStateM ε σ PUnit) := keeps

end Preserves

/-! ### What an attempt comes to -/

/-- An attempt that starts where `pre` holds ends where `post` holds of its answer, or fails where
`fail` holds of its error. -/
def Ensures {ε σ α : Type} (pre : σ → Prop) (x : EStateM ε σ α) (post : α → σ → Prop)
    (fail : ε → σ → Prop) : Prop :=
  ∀ s, pre s → match x s with
    | .ok a t => post a t
    | .error e t => fail e t

namespace Ensures

variable {ε σ α β : Type} {pre : σ → Prop} {post : β → σ → Prop} {middle : α → σ → Prop}
  {fail : ε → σ → Prop}

theorem pure {a : β} (h : ∀ s, pre s → post a s) :
    Ensures pre (Pure.pure a : EStateM ε σ β) post fail := h

theorem throw {e : ε} (h : ∀ s, pre s → fail e s) :
    Ensures pre (MonadExcept.throw e : EStateM ε σ β) post fail := h

theorem imp_fail {x : EStateM ε σ β} {failed : ε → σ → Prop} (h : Ensures pre x post failed)
    (weaker : ∀ e s, failed e s → fail e s) : Ensures pre x post fail := by
  intro s hs
  have holds := h s hs
  cases ran : x s with
  | ok a t =>
    rw [ran] at holds
    exact holds
  | error e t =>
    rw [ran] at holds
    exact weaker e t holds

theorem bind {x : EStateM ε σ α} {f : α → EStateM ε σ β} (first : Ensures pre x middle fail)
    (rest : ∀ a, Ensures (middle a) (f a) post fail) : Ensures pre (x >>= f) post fail := by
  intro s h
  have after := first s h
  rw [bind_apply]
  cases ran : x s with
  | error e t =>
    rw [ran] at after
    exact after
  | ok a t =>
    rw [ran] at after
    exact rest a t after

/-- A failure may be dealt with. -/
theorem tryCatch {x : EStateM ε σ β} {handle : ε → EStateM ε σ β} {failed : ε → σ → Prop}
    (first : Ensures pre x post failed) (rest : ∀ e, Ensures (failed e) (handle e) post fail) :
    Ensures pre (MonadExcept.tryCatch x handle) post fail := by
  intro s h
  have after := first s h
  rw [tryCatch_apply]
  cases ran : x s with
  | ok a t =>
    rw [ran] at after
    exact after
  | error e t =>
    rw [ran] at after
    exact rest e t after

theorem discard {x : EStateM ε σ α} {after : σ → Prop} (h : Ensures pre x (fun _ => after) fail) :
    Ensures pre (Functor.discard x) (fun _ => after) fail := by
  intro s hs
  have holds := h s hs
  rw [discard_apply]
  cases ran : x s <;> rw [ran] at holds <;> exact holds

/-- What is true whether an attempt ends well or not. -/
theorem stateOf {x : EStateM ε σ α} {after : σ → Prop}
    (h : Ensures pre x (fun _ => after) (fun _ => after)) {s : σ} (hs : pre s) :
    after (Steps.stateOf (x s)) := by
  have holds := h s hs
  cases ran : x s <;> rw [ran] at holds <;> exact holds

end Ensures

/-! ### Requests -/

namespace Attempt

variable {σ τ α : Type}

theorem tryCall_apply [ComputeApi σ] (r : Request) (s : σ) :
    tryCall r s = match ComputeApi.call r s with
      | .ok answer t => .ok (.ok answer) t
      | .error status t => .ok (.error status) t := rfl

theorem askAs_apply [ComputeApi σ] (method : Method) (r : Request) (s : σ) :
    askAs method r s = match ComputeApi.call r s with
      | .ok answer t => .ok answer t
      | .error status t => .error (.call method status) t := by
  rw [askAs, bind_apply, tryCall_apply]
  cases ComputeApi.call r s <;> rfl

theorem ask_apply [ComputeApi σ] (r : Request) (s : σ) :
    ask r s = match ComputeApi.call r s with
      | .ok answer t => .ok answer t
      | .error status t => .error (.call r.method status) t :=
  askAs_apply r.method r s

theorem after_eq (x : Attempt σ α) (s : σ) : after x s = stateOf (x s) := by
  rw [after]
  cases x s <;> rfl

theorem within_apply (part : σ → τ) (replace : τ → σ → σ) (x : Attempt τ α) (s : σ) :
    within part replace x s = match x (part s) with
      | .ok a t => .ok a (replace t s)
      | .error e t => .error e (replace t s) := rfl

/-- What succeeds on a part of a state succeeds on the part by itself. -/
theorem within_ok {part : σ → τ} {replace : τ → σ → σ} {x : Attempt τ α} {s t : σ} {a : α}
    (ran : within part replace x s = .ok a t) : ∃ u, x (part s) = .ok a u ∧ t = replace u s := by
  rw [within_apply] at ran
  cases outcome : x (part s) with
  | error e u =>
    rw [outcome] at ran
    contradiction
  | ok answer u =>
    rw [outcome] at ran
    cases ran
    exact ⟨u, rfl, rfl⟩

theorem stateOf_within (part : σ → τ) (replace : τ → σ → σ) (x : Attempt τ α) (s : σ) :
    stateOf (within part replace x s) = replace (stateOf (x (part s))) s := by
  rw [within_apply]
  cases x (part s) <;> rfl

theorem onSecond_apply (x : Attempt τ α) (a : σ) (s : τ) :
    onSecond x (a, s) = match x s with
      | .ok b t => .ok b (a, t)
      | .error e t => .error e (a, t) := rfl

theorem stateOf_onSecond (x : Attempt τ α) (a : σ) (s : τ) :
    stateOf (onSecond x (a, s)) = (a, stateOf (x s)) := by
  rw [onSecond_apply]
  cases x s <;> rfl

end Attempt

variable {σ : Type} [ComputeApi σ] {P : σ → Prop}

namespace Attempt

theorem stateOf_tryCall (r : Request) (s : σ) : stateOf (tryCall r s) = r.after s := by
  rw [tryCall_apply, Request.after]
  cases ComputeApi.call r s <;> rfl

theorem stateOf_askAs (method : Method) (r : Request) (s : σ) :
    stateOf (askAs method r s) = r.after s := by
  rw [askAs_apply, Request.after]
  cases ComputeApi.call r s <;> rfl

theorem stateOf_ask (r : Request) (s : σ) : stateOf (ask r s) = r.after s :=
  stateOf_askAs r.method r s

theorem preserves_tryCall {r : Request} (h : ∀ s, P s → P (r.after s)) :
    Preserves P (tryCall r) := by
  intro s hs
  rw [stateOf_tryCall]
  exact h s hs

theorem preserves_askAs (method : Method) {r : Request} (h : ∀ s, P s → P (r.after s)) :
    Preserves P (askAs method r) := by
  intro s hs
  rw [stateOf_askAs]
  exact h s hs

theorem preserves_ask {r : Request} (h : ∀ s, P s → P (r.after s)) : Preserves P (ask r) :=
  preserves_askAs r.method h

end Attempt

/-! ### Queries -/

section
variable (keeps : ∀ event instant, Preserves P (timeOf event instant))
include keeps

theorem preserves_timesOf (event : EventHandle) : Preserves P (timesOf event) :=
  (keeps event .queued).bind fun _ => (keeps event .submitted).bind fun _ =>
    (keeps event .started).bind fun _ => (keeps event .ended).bind fun _ => .pure _

theorem preserves_elapsedOf (event : Option EventHandle) : Preserves P (elapsedOf event) := by
  cases event with
  | none => exact .pure 0
  | some event => exact (keeps event .started).bind fun _ => (keeps event .ended).bind fun _ => .pure _

theorem preserves_measure (p : Pipeline) (stage : Stage) : Preserves P (p.measure stage) := by
  refine Preserves.bind ?_ fun _ => .pure _
  rw [Pipeline.timestamps]
  cases p.event stage with
  | none => exact .pure none
  | some event => exact (preserves_timesOf keeps event).bind fun _ => .pure _

theorem preserves_metrics (p : Pipeline) : Preserves P p.metrics :=
  (preserves_measure keeps p .load).bind fun _ => (preserves_measure keeps p .compute).bind fun _ =>
    (preserves_measure keeps p .store).bind fun _ => .pure _

end

/-! ### Requests of a simulator -/

namespace Simulator

open Attempt

/-- A request that is answered did what requests do. -/
theorem ok_of_ask {s t : Simulator} {r : Request} {answer : r.Answer}
    (asked : ask r s = .ok answer t) :
    ComputeApi.call r s = .ok answer t ∧ s.Does r t := by
  have does : s.Does r (r.after s) := does_next s r
  rw [← stateOf_ask, asked] at does
  refine ⟨?_, does⟩
  rw [ask_apply] at asked
  cases called : ComputeApi.call r s with
  | error status u =>
    rw [called] at asked
    cases asked
  | ok a u =>
    rw [called] at asked
    cases asked
    rfl

theorem get?_of_createQueue {s t : Simulator} {context : ContextHandle} {device : DeviceId}
    {properties : QueueProperties} {queue : QueueHandle}
    (made : createQueue context device properties s = .ok queue t) :
    t.queues.get? queue = some { properties } := by
  rw [createQueue_eq] at made
  split at made <;> cases made
  exact Table.get?_insert_self _ _ _

theorem nameOf_of_createKernel {s t : Simulator} {program : ProgramHandle} {name : String}
    {kernel : KernelHandle} (made : createKernel program name s = .ok kernel t) :
    t.nameOf kernel = some name := by
  rw [createKernel_eq] at made
  repeat' split at made
  all_goals cases made
  rw [nameOf, Table.get?_insert_self]
  rfl

/-- A quiet request that is answered leaves the queues alone. -/
theorem queues_of_ask {s t : Simulator} {r : Request} {answer : r.Answer} (quiet : r.isQuiet)
    (asked : ask r s = .ok answer t) : t.queues = s.queues := by
  have same := (quiet_next s quiet).1
  rw [next, (ok_of_ask asked).1] at same
  exact same

end Simulator

end FpgaHost
