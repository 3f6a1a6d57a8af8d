import FpgaHost.Proofs.Session.Holding
import FpgaHost.Proofs.Session.Start
import FpgaHost.Proofs.Simulator.Freshness

/-!
# What a session gives back

The history of an instrumented backend is a ledger of what was lent and given back. Whatever fails,
what a session holds and what was given back is all that was lent, and a session that is closed
holds nothing any more.

Main statement: `returned_exactly_once`.
-/

namespace FpgaHost.Session

variable {σ : Type} [ComputeApi σ] {start : Instrumented σ}

/-- The ledger is balanced with what the session holds. -/
def Kept (start : Instrumented σ) (s : Session (Instrumented σ)) : Prop :=
  s.pipeline.Vacant ∧ Balanced start s.loans s.backend

/-- Every operation keeps the ledger balanced, whatever fails. -/
theorem kept_perform (operation : Operation) :
    Preserves (Kept (σ := σ) start) operation.perform :=
  (accounting_balanced start).holds_perform operation

/-- A session that is closed holds nothing any more. -/
theorem balanced_close {s : Session (Instrumented σ)} (kept : Kept start s) :
    Balanced start [] s.close :=
  (accounting_balanced start).nothing_of_close kept

/-- A session that begins holds the context of its device, and one that cannot begin leaves nothing
held. -/
theorem balanced_startRead {backend : Instrumented σ} (unused : backend.history = [])
    (image : Except ImageError Image) (config : SessionConfig) :
    match startRead image config backend with
    | .error (_, left) => Balanced backend [] left
    | .ok s => Kept backend s := by
  have balanced := balanced_of_unused unused
  cases image with
  | error e => exact balanced
  | ok image =>
    have begun := (accounting_balanced backend).holds_start balanced image config
    rw [startRead]
    cases outcome : Session.start image config backend <;> rw [outcome] at begun <;> exact begun

/-- Whatever comes of the attempt to begin a session, everything is given back once. -/
inductive ReturnsAll :
    Except (SessionError × Instrumented σ) (Session (Instrumented σ)) → Prop
  /-- The session cannot begin: all that was lent was given back once, and nothing else was. -/
  | failed (e : SessionError) {left : Instrumented σ} (settled : Settled left.history) :
      ReturnsAll (.error (e, left))
  /-- The session begins: after any operations each loan is either held or was given back once, and
  after it is closed all were given back once, and nothing else was. -/
  | began {s : Session (Instrumented σ)}
      (accounted : ∀ operations,
        Accounted (s.performAll operations).loans (s.performAll operations).backend.history)
      (settled : ∀ operations, Settled (s.performAll operations).close.history) :
      ReturnsAll (.ok s)

/-- Everything that is taken into use is given back exactly once, on every backend that hands out
fresh handles, whichever requests it fails. -/
theorem returned_exactly_once {backend : Instrumented σ} (fresh : backend.HandsOutFresh)
    (image : Except ImageError Image) (config : SessionConfig) :
    ReturnsAll (startRead image config backend) := by
  have begun := balanced_startRead fresh.unused image config
  cases started : startRead image config backend with
  | error failed =>
    rw [started] at begun
    exact .failed failed.1 (begun.settled fresh)
  | ok s =>
    rw [started] at begun
    have kept := holds_performAll kept_perform begun
    exact .began (fun operations => (kept operations).2.accounted fresh)
      fun operations => (balanced_close (kept operations)).settled fresh

/-- A simulator with the device of an image, on which the first event cannot be given back and no
buffer can be allocated a second time. -/
def faulty (image : Image) : Instrumented Simulator where
  inner := image.host []
  instruments := { faults := [⟨.releaseEvent, 1, .invalidEvent⟩, ⟨.createBuffer, 2, .invalidValue⟩] }

theorem returned_exactly_once_faulty :
    (faulty oneArgument).HandsOutFresh ∧
    ReturnsAll (startRead (.ok oneArgument) {} (faulty oneArgument)) :=
  have fresh : (faulty oneArgument).HandsOutFresh := Instrumented.handsOutFresh rfl
  ⟨fresh, returned_exactly_once fresh (.ok oneArgument) {}⟩

end FpgaHost.Session
