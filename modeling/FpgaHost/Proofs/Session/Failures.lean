import FpgaHost.Proofs.Session.Measured
import FpgaHost.Proofs.Session.Protocol
import FpgaHost.Proofs.Session.Start
import FpgaHost.Proofs.Simulator.Instants

/-!
# What a failure leaves of a cycle

Any request that a call of a pipeline makes of its backend may fail. A call that is refused leaves
the pipeline as it is, and so does an execute, a read or a finish that fails. A write gives the
events of the cycle before back and only then submits its own stage. If it fails, the events up to
the one whose return has failed are gone, or all of them if it is the migration that has failed,
although no new cycle has begun: the stages whose event is gone are measured as if they had been
skipped, with the bytes that they have moved. The other stages lose nothing. On a simulator what
could be measured of them before the failure can be measured after it, with the same times.

Main statements: `Pipeline.setback_of_error`, which lists the ways in which a call can fail with the
requests it has made by then, and `Pipeline.left_by_failure`.
-/

namespace FpgaHost

open Steps Attempt

/-! ### Requests one after the other -/

section

variable {σ : Type} [ComputeApi σ]

/-- The state of a backend after some requests, whether they are answered or refused. -/
def Request.inTurn (requests : List Request) (s : σ) : σ :=
  requests.foldl (fun s r => r.after s) s

theorem Request.inTurn_append (first rest : List Request) (s : σ) :
    inTurn (first ++ rest) s = inTurn rest (inTurn first s) :=
  List.foldl_append

/-- A request that is refused fails the attempt under its own name. -/
theorem Attempt.ask_error {r : Request} {s t : σ} {e : SessionError}
    (failed : ask r s = .error e t) : (∃ status, e = .call r.method status) ∧ t = r.after s := by
  rw [ask_apply] at failed
  rw [Request.after]
  cases called : ComputeApi.call r s with
  | ok answer u =>
    rw [called] at failed
    contradiction
  | error status u =>
    rw [called] at failed
    cases failed
    exact ⟨⟨status, rfl⟩, rfl⟩

end

namespace Pipeline

open Request

/-! ### Pipelines that have lost events -/

section

variable {p : Pipeline} {stages : List Stage} {stage : Stage}

/-- The pipeline without the events of some stages. -/
def without (p : Pipeline) (stages : List Stage) : Pipeline := stages.foldl withoutEvent p

theorem state_without (p : Pipeline) (stages : List Stage) : (p.without stages).state = p.state := by
  induction stages generalizing p with
  | nil => rfl
  | cons stage rest ih =>
    refine (ih (p.withoutEvent stage)).trans ?_
    cases stage <;> rfl

theorem bytes_without (p : Pipeline) (stages : List Stage) (stage : Stage) :
    (p.without stages).bytes stage = p.bytes stage := by
  induction stages generalizing p with
  | nil => rfl
  | cons first rest ih =>
    refine (ih (p.withoutEvent first)).trans ?_
    cases first <;> cases stage <;> rfl

theorem event_without (p : Pipeline) (stages : List Stage) (stage : Stage) :
    (p.without stages).event stage = if stage ∈ stages then none else p.event stage := by
  induction stages generalizing p with
  | nil => rfl
  | cons first rest ih =>
    have later := ih (p.withoutEvent first)
    rw [event_withoutEvent] at later
    rw [without, List.foldl_cons, ← without, later]
    by_cases same : stage = first <;> simp [same]

/-- A pipeline that loses the events of stages without any is the same. -/
theorem without_eq_iff : p.without stages = p ↔ ∀ stage ∈ stages, p.event stage = none := by
  constructor
  · intro same stage mem
    rw [← same, event_without, if_pos mem]
  · intro none
    induction stages with
    | nil => rfl
    | cons first rest ih =>
      rw [without, List.foldl_cons, withoutEvent_of_none (none first List.mem_cons_self)]
      exact ih fun stage mem => none stage (List.mem_cons_of_mem _ mem)

/-- The requests by which the events of some stages are given back. -/
def returns (p : Pipeline) (stages : List Stage) : List Request :=
  (stages.filterMap p.event).map .releaseEvent

theorem returns_withoutEvent (p : Pipeline) (other : stage ∉ stages) :
    (p.withoutEvent stage).returns stages = p.returns stages := by
  refine congrArg (List.map _) (List.filterMap_congr fun s mem => ?_)
  rw [event_withoutEvent, if_neg]
  rintro rfl
  exact other mem

theorem returns_cons (p : Pipeline) (stage : Stage) (rest : List Stage) :
    p.returns (stage :: rest) = p.returns [stage] ++ p.returns rest := by
  rw [returns, ← List.singleton_append, List.filterMap_append, List.map_append]
  rfl

/-- What is asked for is that an event of one of the stages is given back. -/
theorem mem_returns {r : Request} (mem : r ∈ p.returns stages) :
    ∃ stage ∈ stages, ∃ event, p.event stage = some event ∧ r = .releaseEvent event := by
  obtain ⟨event, held, rfl⟩ := List.mem_map.1 mem
  obtain ⟨stage, there, mine⟩ := List.mem_filterMap.1 held
  exact ⟨stage, there, event, mine, rfl⟩

end

/-! ### Giving events back -/

section

variable {σ : Type} [ComputeApi σ] {p : Pipeline} {s : σ}

/-- The event of a stage is gone whether or not it could be given back. -/
theorem stateOf_release (stage : Stage) (p : Pipeline) (s : σ) :
    stateOf (release stage (p, s)) = (p.withoutEvent stage, inTurn (p.returns [stage]) s) := by
  rw [release_apply]
  cases held : p.event stage with
  | none => simp [withoutEvent_of_none held, returns, held, inTurn, stateOf]
  | some event =>
    dsimp only
    rw [stateOf_onSecond, stateOf_ask]
    simp [returns, held, inTurn]

theorem release_error {stage : Stage} {e : SessionError} {qt : Pipeline × σ}
    (failed : release stage (p, s) = .error e qt) :
    (p.event stage).isSome ∧ ∃ status, e = .call .releaseEvent status := by
  rw [release_apply] at failed
  cases held : p.event stage with
  | none =>
    rw [held] at failed
    contradiction
  | some event =>
    rw [held] at failed
    dsimp only at failed
    rw [onSecond_apply] at failed
    cases asked : ask (.releaseEvent event) s with
    | ok _ t =>
      rw [asked] at failed
      contradiction
    | error f t =>
      rw [asked] at failed
      cases failed
      exact ⟨rfl, (ask_error asked).1⟩

/-- Stages lose their events one after the other, up to the first whose event cannot be given
back. -/
theorem forM_release {stages : List Stage} (distinct : stages.Nodup) (p : Pipeline) (s : σ) :
    match forM stages release (p, s) with
    | .ok _ qt => qt = (p.without stages, inTurn (p.returns stages) s)
    | .error e qt => ∃ done stage rest status, done ++ stage :: rest = stages ∧
        (p.event stage).isSome ∧ e = .call .releaseEvent status ∧
        qt = (p.without (done ++ [stage]), inTurn (p.returns (done ++ [stage])) s) := by
  induction stages generalizing p s with
  | nil => rfl
  | cons first rest ih =>
    obtain ⟨fresh, distinct⟩ := List.nodup_cons.1 distinct
    have left := stateOf_release first p s
    rw [List.forM_cons, bind_apply]
    cases gave : release first (p, s) with
    | error e qt =>
      obtain ⟨held, status, rfl⟩ := release_error gave
      rw [gave] at left
      exact ⟨[], first, rest, status, rfl, held, rfl, left⟩
    | ok _ qt =>
      rw [gave, stateOf_ok] at left
      subst left
      have later := ih distinct (p.withoutEvent first) (inTurn (p.returns [first]) s)
      dsimp only
      cases ran : forM rest release (p.withoutEvent first, inTurn (p.returns [first]) s) with
      | ok _ qt =>
        rw [ran] at later
        dsimp only at later ⊢
        rw [later, returns_withoutEvent p fresh, ← inTurn_append, ← returns_cons]
        rfl
      | error e qt =>
        rw [ran] at later
        obtain ⟨done, stage, after, status, rfl, held, rfl, rfl⟩ := later
        have other : first ∉ done ++ [stage] := by
          intro mem
          refine fresh ?_
          rw [List.append_cons]
          exact List.mem_append_left _ mem
        refine ⟨first :: done, stage, after, status, rfl, ?_, rfl, ?_⟩
        · rw [event_withoutEvent] at held
          split at held
          · contradiction
          · exact held
        · rw [returns_withoutEvent p other, ← inTurn_append, ← returns_cons]
          rfl

theorem releaseHeld_eq : (releaseHeld : Attempt (Pipeline × σ) Unit) = forM Stage.all release := by
  simp [releaseHeld, Stage.all]

/-- A migration that fails was asked for. -/
theorem submitMigration_asked {queue : QueueHandle} {buffers : List BufferHandle}
    {direction : Direction} {wait : List EventHandle} {s t : σ} {e : SessionError}
    (failed : submitMigration queue buffers direction wait s = .error e t) :
    (∃ status, e = .call .enqueueMigrate status) ∧
      t = Request.after (.enqueueMigrate queue buffers direction wait) s := by
  rw [submitMigration_eq] at failed
  split at failed
  · contradiction
  · cases asked : ask (.enqueueMigrate queue buffers direction wait) s with
    | ok event u =>
      rw [asked] at failed
      contradiction
    | error f u =>
      rw [asked] at failed
      cases failed
      exact ask_error asked

/-! ### The ways to fail -/

/-- How a call of a pipeline can fail: with what error, which stages have lost their event by then,
and what has been asked of the backend. -/
inductive Setback (p : Pipeline) : Action → SessionError → List Stage → List Request → Prop
  /-- It is out of order. -/
  | refused {action : Action} (stage : Stage) (named : action.step = .submit stage)
      (late : stage.startsFrom.contains p.state = false) :
      Setback p action (.outOfOrder stage p.state) [] []
  /-- A write could not give the event of a stage back. -/
  | releasing {queue : QueueHandle} {m : BufferManager} {done rest : List Stage} {stage : Stage}
      {status : Status} (ready : Stage.load.startsFrom.contains p.state = true)
      (order : done ++ stage :: rest = Stage.all) (held : (p.event stage).isSome) :
      Setback p (.write queue m) (.call .releaseEvent status) (done ++ [stage])
        (p.returns (done ++ [stage]))
  /-- A write could not submit its migration. -/
  | loading {queue : QueueHandle} {m : BufferManager} {status : Status}
      (ready : Stage.load.startsFrom.contains p.state = true) :
      Setback p (.write queue m) (.call .enqueueMigrate status) Stage.all
        (p.returns Stage.all ++ [.enqueueMigrate queue m.loadHandles .toDevice []])
  /-- An execute could not submit the kernel. -/
  | computing {queue : QueueHandle} {kernel : KernelHandle} {status : Status} :
      Setback p (.execute queue kernel) (.call .enqueueTask status) []
        [.enqueueTask queue kernel p.load.event.toList]
  /-- A read could not submit its migration. -/
  | storing {queue : QueueHandle} {m : BufferManager} {status : Status} :
      Setback p (.read queue m) (.call .enqueueMigrate status) []
        [.enqueueMigrate queue m.storeHandles .toHost p.compute.event.toList]
  /-- A finish could not start the queue. -/
  | starting {queue : QueueHandle} {status : Status} :
      Setback p (.finish queue) (.call .flush status) [] [.flush queue]
  /-- A finish could not wait for the queue. -/
  | waiting {queue : QueueHandle} {status : Status} :
      Setback p (.finish queue) (.call .finish status) [] [.flush queue, .finish queue]

variable {e : SessionError} {qt : Pipeline × σ}

theorem setback_of_write {queue : QueueHandle} {m : BufferManager}
    (failed : discard (write queue m) (p, s) = .error e qt) :
    ∃ gone asked, Setback p (.write queue m) e gone asked ∧
      qt = (p.without gone, inTurn asked s) := by
  rw [discard_apply, write_eq] at failed
  cases ready : Stage.load.startsFrom.contains p.state with
  | false =>
    rw [ready] at failed
    cases failed
    exact ⟨[], [], .refused .load rfl ready, rfl⟩
  | true =>
    rw [ready, if_pos rfl] at failed
    have gave := forM_release (by decide : Stage.all.Nodup) p s
    rw [← releaseHeld_eq] at gave
    cases released : releaseHeld (p, s) with
    | error f u =>
      rw [released] at failed gave
      cases failed
      obtain ⟨done, stage, rest, status, order, held, rfl, same⟩ := gave
      exact ⟨_, _, .releasing ready order held, same⟩
    | ok _ u =>
      rw [released] at failed gave
      obtain rfl := gave
      dsimp only at failed
      cases submitted : submitMigration queue m.loadHandles .toDevice []
          (inTurn (p.returns Stage.all) s) with
      | ok event v =>
        rw [submitted] at failed
        contradiction
      | error f v =>
        rw [submitted] at failed
        cases failed
        obtain ⟨⟨status, rfl⟩, rfl⟩ := submitMigration_asked submitted
        refine ⟨_, _, .loading ready, ?_⟩
        rw [inTurn_append]
        rfl

theorem setback_of_execute {queue : QueueHandle} {kernel : KernelHandle}
    (failed : discard (execute queue kernel) (p, s) = .error e qt) :
    ∃ gone asked, Setback p (.execute queue kernel) e gone asked ∧
      qt = (p.without gone, inTurn asked s) := by
  rw [discard_apply, execute_eq] at failed
  cases ready : Stage.compute.startsFrom.contains p.state with
  | false =>
    rw [ready] at failed
    cases failed
    exact ⟨[], [], .refused .compute rfl ready, rfl⟩
  | true =>
    rw [ready, if_pos rfl] at failed
    cases asked : ask (.enqueueTask queue kernel p.load.event.toList) s with
    | ok event t =>
      rw [asked] at failed
      contradiction
    | error f t =>
      rw [asked] at failed
      cases failed
      obtain ⟨⟨status, rfl⟩, rfl⟩ := ask_error asked
      exact ⟨_, _, .computing, rfl⟩

theorem setback_of_read {queue : QueueHandle} {m : BufferManager}
    (failed : discard (read queue m) (p, s) = .error e qt) :
    ∃ gone asked, Setback p (.read queue m) e gone asked ∧
      qt = (p.without gone, inTurn asked s) := by
  rw [discard_apply, read_eq] at failed
  cases ready : Stage.store.startsFrom.contains p.state with
  | false =>
    rw [ready] at failed
    cases failed
    exact ⟨[], [], .refused .store rfl ready, rfl⟩
  | true =>
    rw [ready, if_pos rfl] at failed
    cases submitted : submitMigration queue m.storeHandles .toHost p.compute.event.toList s with
    | ok event t =>
      rw [submitted] at failed
      contradiction
    | error f t =>
      rw [submitted] at failed
      cases failed
      obtain ⟨⟨status, rfl⟩, rfl⟩ := submitMigration_asked submitted
      exact ⟨_, _, .storing, rfl⟩

theorem setback_of_finish {queue : QueueHandle} (failed : finish queue (p, s) = .error e qt) :
    ∃ gone asked, Setback p (.finish queue) e gone asked ∧
      qt = (p.without gone, inTurn asked s) := by
  rw [finish_eq] at failed
  have left := stateOf_ask (.flush queue) s
  cases flushed : ask (.flush queue) s with
  | error f t =>
    rw [flushed] at failed
    cases failed
    obtain ⟨⟨status, rfl⟩, rfl⟩ := ask_error flushed
    exact ⟨_, _, .starting, rfl⟩
  | ok _ t =>
    rw [flushed] at failed left
    dsimp only at failed
    cases waited : ask (.finish queue) t with
    | ok _ u =>
      rw [waited] at failed
      contradiction
    | error f u =>
      rw [waited] at failed
      cases failed
      obtain ⟨⟨status, rfl⟩, rfl⟩ := ask_error waited
      rw [stateOf_ok] at left
      rw [left]
      exact ⟨_, _, .waiting, rfl⟩

/-- A call that fails does so in one of these ways, and leaves the pipeline without the events that
are lost and the backend after what was asked. -/
theorem setback_of_error {action : Action} (failed : action.perform (p, s) = .error e qt) :
    ∃ gone asked, Setback p action e gone asked ∧ qt = (p.without gone, inTurn asked s) := by
  cases action with
  | write queue m => exact setback_of_write failed
  | execute queue kernel => exact setback_of_execute failed
  | read queue m => exact setback_of_read failed
  | finish queue => exact setback_of_finish failed

/-! ### What is left -/

/-- Whether a call gives events back: it is a write in order, and there is an event to give back. -/
def Action.GivesBack (action : Action) (p : Pipeline) : Prop :=
  action.step = .submit .load ∧ Stage.load.startsFrom.contains p.state = true ∧
    ∃ stage, (p.event stage).isSome

/-- A call loses no event unless it gives events back. -/
theorem Setback.lost_iff {action : Action} {gone : List Stage} {asked : List Request}
    (setback : Setback p action e gone asked) :
    (∃ stage ∈ gone, (p.event stage).isSome) ↔ action.GivesBack p := by
  have none : ¬ ∃ stage ∈ ([] : List Stage), (p.event stage).isSome := by simp
  cases setback with
  | refused stage named late =>
    refine iff_of_false none fun gives => ?_
    obtain ⟨write, ready, -⟩ := gives
    rw [named] at write
    cases write
    rw [late] at ready
    contradiction
  | @releasing queue m done rest stage status ready order held =>
    exact iff_of_true ⟨stage, by simp, held⟩ ⟨rfl, ready, stage, held⟩
  | loading ready =>
    constructor
    · rintro ⟨stage, -, held⟩
      exact ⟨rfl, ready, stage, held⟩
    · rintro ⟨-, -, stage, held⟩
      exact ⟨stage, by cases stage <;> decide, held⟩
  | computing => exact iff_of_false none fun gives => by cases gives.1
  | storing => exact iff_of_false none fun gives => by cases gives.1
  | starting => exact iff_of_false none fun gives => by cases gives.1
  | waiting => exact iff_of_false none fun gives => by cases gives.1

/-- What is left of a pipeline when some stages have lost their event. -/
structure Left (p : Pipeline) (gone : List Stage) (q : Pipeline) : Prop where
  /-- The cycle has come as far as before. -/
  state : q.state = p.state
  /-- Every stage moves as many bytes as before. -/
  bytes : ∀ stage, q.bytes stage = p.bytes stage
  /-- The other stages hold the event that they held. -/
  event : ∀ stage, q.event stage = if stage ∈ gone then none else p.event stage
  /-- The stages that have lost their event are measured as if they had been skipped. -/
  skipped : ∀ stage ∈ gone, ∀ u : σ,
    q.measure stage u = .ok { stage, bytes := p.bytes stage, times := none } u

theorem left_without (p : Pipeline) (gone : List Stage) : Left (σ := σ) p gone (p.without gone) where
  state := state_without p gone
  bytes := bytes_without p gone
  event := event_without p gone
  skipped stage mem u := by
    have lost : (p.without gone).event stage = none := by rw [event_without, if_pos mem]
    rw [measure, timestamps, lost, bytes_without]
    rfl

end

end Pipeline

/-! ### What can still be measured -/

namespace Simulator

variable {s t : Simulator} {event : EventHandle}

/-- An instant is answered exactly if the event was not given back, its queue records times and the
instant is known. -/
theorem timeOf_eq_ok_iff {instant : Instant} {time : Nat} :
    timeOf event instant s = .ok time t ↔ t = s ∧ ∃ r, s.liveEvent? event = some r ∧
      r.profiling = true ∧ r.instant? instant = some time := by
  have call : ComputeApi.call (.profilingInfo event instant) s = profilingInfo event instant s := rfl
  rw [timeOf, ask_apply, call, profilingInfo_eq]
  cases live : s.liveEvent? event with
  | none => simp
  | some r =>
    dsimp only
    cases profiling : r.profiling with
    | false => simp [profiling]
    | true =>
      cases known : r.instant? instant with
      | none => simp [profiling, known]
      | some n =>
        constructor
        · rintro ⟨⟩
          exact ⟨rfl, r, rfl, profiling, known⟩
        · rintro ⟨rfl, q, ⟨⟩, -, same⟩
          rw [known] at same
          cases same
          rfl

/-- The times of an event are answered together exactly if each of them is. -/
theorem timed_of_timesOf {times : Timestamps} (told : timesOf event s = .ok times t) :
    s.Timed event times := by
  obtain ⟨queued, u, first, later⟩ := Steps.bind_eq_ok_iff.1 told
  obtain ⟨rfl, -⟩ := timeOf_eq_ok_iff.1 first
  obtain ⟨submitted, u, second, rest⟩ := Steps.bind_eq_ok_iff.1 later
  obtain ⟨rfl, -⟩ := timeOf_eq_ok_iff.1 second
  obtain ⟨started, u, third, last⟩ := Steps.bind_eq_ok_iff.1 rest
  obtain ⟨rfl, -⟩ := timeOf_eq_ok_iff.1 third
  obtain ⟨ended, u, fourth, answer⟩ := Steps.bind_eq_ok_iff.1 last
  obtain ⟨rfl, -⟩ := timeOf_eq_ok_iff.1 fourth
  cases answer
  rintro (_ | _ | _ | _)
  · exact first
  · exact second
  · exact third
  · exact fourth

end Simulator

/-- What was known of the instants of a command stays so when it is carried out. -/
theorem EventRecord.instant?_of_later {r q : EventRecord} {instant : Instant} {time : Nat}
    (queued : q.queued = r.queued) (ran : ∀ x, r.execution = some x → q.execution = some x)
    (known : r.instant? instant = some time) : q.instant? instant = some time := by
  cases instant with
  | queued => rwa [instant?, queued]
  | _ =>
    obtain ⟨x, found, rfl⟩ := Option.map_eq_some_iff.1 known
    rw [instant?, ran x found, Option.map_some]

namespace Chronicle

open Simulator

variable {history : List Happening} {event : EventHandle}

theorem of_asked (history : List Happening) (r : Request) :
    of (history ++ [.request r]) = (of history).asked r := by
  rw [of_append]
  rfl

/-- An event that may be asked for its times may be asked after any request but the one that gives
it back, and answers the same. -/
theorem timed_asked {times : Timestamps} {r : Request} (keeps : r ≠ .releaseEvent event)
    (timed : (of history).state.Timed event times) :
    (of (history ++ [.request r])).state.Timed event times := by
  have sound := sound_of history
  have later := sound_of (history ++ [.request r])
  have faithful := faithful_of history
  have faithful' := faithful_of (history ++ [.request r])
  have turn := turn_asked (of history) sound.reachable.sized r
  rw [of_asked] at later faithful' ⊢
  intro instant
  obtain ⟨-, before, live, profiling, known⟩ := timeOf_eq_ok_iff.1 (timed instant)
  have retains := sound.reachable.numbered.retains (does_next (of history).state r)
  have same := retains.events event keeps (Option.isSome_iff_exists.2 ⟨before, live⟩)
  rw [profilingOf, profilingOf, live, Option.map_some, Option.map_eq_some_iff] at same
  obtain ⟨after, remains, profiles⟩ := same
  -- Both records tell of one command, so they agree on every instant that was known.
  obtain ⟨o, mine, here, tells⟩ := faithful.known event before (Option.filter_eq_some_iff.1 live).1
  obtain ⟨o', its, here', tells'⟩ :=
    faithful'.known event after (Option.filter_eq_some_iff.1 remains).1
  obtain rfl := later.commission_unique (turn.commissions_subset mine) its (here.trans here'.symm)
  refine timeOf_eq_ok_iff.2 ⟨rfl, after, remains, profiles.trans profiling, ?_⟩
  refine EventRecord.instant?_of_later (tells'.queued.trans tells.queued.symm) (fun x ran => ?_) known
  exact (tells'.execution x).2 (turn.log_prefix.subset ((tells.execution x).1 ran))

theorem state_of_requests (history : List Happening) (requests : List Request) :
    (of (history ++ requests.map .request)).state = Request.inTurn requests (of history).state := by
  induction requests generalizing history with
  | nil => rw [List.map_nil, List.append_nil, Request.inTurn, List.foldl_nil]
  | cons r rest ih =>
    have later := ih (history ++ [.request r])
    rw [List.append_assoc, List.singleton_append, of_asked] at later
    exact later

/-- The times of an event that is not given back are answered after any requests as before. -/
theorem timed_of_requests {times : Timestamps} {requests : List Request}
    (keeps : Request.releaseEvent event ∉ requests) (timed : (of history).state.Timed event times) :
    (Request.inTurn requests (of history).state).Timed event times := by
  rw [← state_of_requests]
  induction requests generalizing history with
  | nil => rwa [List.map_nil, List.append_nil]
  | cons r rest ih =>
    rw [List.mem_cons, not_or] at keeps
    obtain ⟨other, keeps⟩ := keeps
    have later := ih keeps (timed_asked (Ne.symm other) timed)
    rwa [List.append_assoc] at later

end Chronicle

namespace Pipeline

variable {p q : Pipeline} {s t : Simulator} {stage : Stage} {measured : StageMetrics}

/-- What could be measured of a stage can be measured again as long as its record is the same and
its event answers as before. -/
theorem reports_of_measure (event : q.event stage = p.event stage)
    (bytes : q.bytes stage = p.bytes stage)
    (stays : ∀ event times, p.event stage = some event → s.Timed event times → t.Timed event times)
    (told : p.measure stage s = .ok measured s) : q.Reports t stage measured := by
  obtain ⟨stamps, u, asked, told⟩ := Steps.bind_eq_ok_iff.1 told
  cases told
  rw [timestamps] at asked
  rw [← bytes]
  cases there : p.event stage with
  | none =>
    rw [there] at asked
    cases asked
    exact reports_of_skipped (event.trans there)
  | some held =>
    rw [there] at asked
    obtain ⟨times, v, answered, told⟩ := Steps.bind_eq_ok_iff.1 asked
    cases told
    have timed := stays held times there (Simulator.timed_of_timesOf answered)
    exact reports_of_timed (event.trans there) timed

/-- A call that fails asks for no event back that a stage still holds. -/
theorem Setback.keeps {action : Action} {e : SessionError} {gone : List Stage}
    {asked : List Request} {event : EventHandle} (setback : Setback p action e gone asked)
    (distinct : ∀ other, p.event other = some event → other = stage)
    (kept : stage ∉ gone) : Request.releaseEvent event ∉ asked := by
  have returned : ∀ {stages : List Stage}, stage ∉ stages →
      Request.releaseEvent event ∉ p.returns stages := by
    intro stages other mem
    obtain ⟨owner, there, its, held, same⟩ := mem_returns mem
    cases same
    exact other (distinct owner held ▸ there)
  cases setback with
  | refused stage named late => exact List.not_mem_nil
  | releasing ready order held => exact returned kept
  | loading ready => simpa using returned kept
  | computing => simp
  | storing => simp
  | starting => simp
  | waiting => simp

/-- A call that fails, on whatever backend and at whichever of its requests, leaves the state of the
pipeline and the bytes of its stages as they are. It leaves all of the pipeline as it is exactly
if it is no write that has an event to give back. Such a write leaves the stages that it has reached
without their events, to be measured as if they had been skipped. On a simulator, whatever has
happened to it, the stages that still hold their event are measured as before, as long as no two
stages hold the same. -/
theorem left_by_failure (p q : Pipeline) (action : Action) (e : SessionError) :
    (∀ (σ : Type) [ComputeApi σ] (s t : σ), action.perform (p, s) = .error e (q, t) →
      ∃ gone asked, Setback p action e gone asked ∧ t = Request.inTurn asked s ∧
        Left (σ := σ) p gone q ∧ (q = p ↔ ¬ action.GivesBack p)) ∧
    ∀ (history : List Happening) (t : Simulator),
      (∀ stage other event, p.event stage = some event → p.event other = some event →
        stage = other) →
      action.perform (p, (Chronicle.of history).state) = .error e (q, t) →
      ∀ stage measured, p.measure stage (Chronicle.of history).state =
          .ok measured (Chronicle.of history).state →
        q.event stage = p.event stage → q.Reports t stage measured := by
  constructor
  · intro σ _ s t failed
    obtain ⟨gone, asked, setback, same⟩ := setback_of_error failed
    cases same
    refine ⟨gone, asked, setback, rfl, left_without p gone, ?_⟩
    rw [without_eq_iff, ← setback.lost_iff]
    simp [Option.isSome_iff_ne_none]
  · intro history t distinct failed stage measured told held
    obtain ⟨gone, asked, setback, same⟩ := setback_of_error failed
    cases same
    refine reports_of_measure held (bytes_without p gone stage) (fun event times mine timed => ?_)
      told
    refine Chronicle.timed_of_requests ?_ timed
    refine setback.keeps (fun other its => distinct other stage event its mine) fun lost => ?_
    rw [event_without, if_pos lost, mine] at held
    contradiction

/-- A session with a buffer for its only argument. -/
def readied : Session Simulator :=
  (Session.begun Session.oneArgument [] {}).performAll
    [.createBuffer ⟨0, .readWrite, 64, none, .none⟩, .setBuffer 0]

/-- The backend of that session, where the third migration is to fail. -/
def exhausted : Instrumented Simulator where
  inner := readied.backend
  instruments := { faults := [⟨.enqueueMigrate, 3, .outOfResources⟩] }

/-- A call that fails can change the pipeline: after a whole cycle, a write whose migration fails
has given all events of the cycle back. -/
theorem not_kept_by_failure :
    ¬ ∀ (σ : Type) [ComputeApi σ] (s : σ) (actions : List Action) (action : Action)
      (e : SessionError) (q : Pipeline) (t : σ),
      action.perform (performAll actions ({}, s)) = .error e (q, t) →
      q = (performAll actions ({}, s)).1 := by
  intro always
  have kept := always _ exhausted (Session.wholeCycle.map readied.action)
    (readied.action (.submit .load))
  generalize reached : performAll (Session.wholeCycle.map readied.action) ({}, exhausted) = ps at kept
  have held : ps.1.event .load = some ⟨6⟩ := by
    subst reached
    decide +kernel
  have fails : Simulator.answers ((readied.action (.submit .load)).perform ps) = false := by
    subst reached
    decide +kernel
  have lost : (stateOf ((readied.action (.submit .load)).perform ps)).1.event .load = none := by
    subst reached
    decide +kernel
  cases failed : (readied.action (.submit .load)).perform ps with
  | ok _ qt =>
    rw [failed] at fails
    cases fails
  | error e qt =>
    rw [failed, stateOf_error, kept e qt.1 qt.2 failed, held] at lost
    cases lost

end Pipeline

end FpgaHost
