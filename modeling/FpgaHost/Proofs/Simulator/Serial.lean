import FpgaHost.Proofs.Simulator.Instants

/-!
# Queues that work in order

On a queue that works in order a command begins when the one before it has ended. The simulator
remembers for this when the last command of the queue ended, but only from a start that succeeded: a
start that fails half way forgets the commands that it has carried out. So the law holds of any two
commands that one start has carried out, and of any two of which the first was carried out by a
start that succeeded (`serial_unless_failed`); and nothing else delays a command than what it waits
for and these (`started_isGreatest`). A command that follows a failed start may well begin before an
earlier one has ended (`not_serial`).
-/

namespace FpgaHost

open Simulator Steps

/-! ### Rounds one after the other -/

namespace Round

/-- A start of a queue that works in order. -/
def InOrder (round : Round) : Prop :=
  (round.before.propertiesOf round.queue).map (·.outOfOrder) = some false

/-- One start carried out earlier commands than another, and if it succeeded, these had ended before
the other began in order. -/
structure Precedes (a b : Round) : Prop where
  /-- The commands were put into the queue earlier. -/
  numbered : ∀ x ∈ a.runs, ∀ y ∈ b.runs, x.1.id < y.1.id
  /-- They had ended. -/
  ended : a.succeeded = true → b.InOrder → ∀ x ∈ a.runs, ∀ y ∈ b.runs, x.2.ended ≤ y.2.started

/-- A start carried out commands as they were put into the queue, in order one after the other. -/
def Serial (round : Round) : Prop :=
  round.runs.Pairwise fun x y => x.1.id < y.1.id ∧ (round.InOrder → x.2.ended ≤ y.2.started)

end Round

namespace Chronicle

variable {c u : Chronicle} {queue k : QueueHandle} {q : Queue}

/-- What a queue remembers of its starts. -/
structure InLine (rounds : List Round) (k : QueueHandle) (q : Queue) : Prop where
  /-- Commands are pending as they were put into the queue. -/
  ordered : q.pending.Pairwise fun a b => a.id < b.id
  /-- They were put there later than those that were carried out. -/
  later : ∀ round ∈ rounds, round.queue = k →
    ∀ run ∈ round.runs, ∀ e ∈ q.pending, run.1.id < e.id
  /-- The last end is not before any end in a start that succeeded. -/
  ended : ∀ round ∈ rounds, round.queue = k → round.succeeded = true →
    ∀ run ∈ round.runs, run.2.ended ≤ q.lastEnd
  /-- It is one of these ends, if there is any. -/
  last : q.lastEnd = 0 ∨ ∃ round ∈ rounds, round.queue = k ∧ round.succeeded = true ∧
    ∃ run ∈ round.runs, q.lastEnd = run.2.ended

/-- Starts of other queues are not remembered. -/
theorem InLine.append {rounds : List Round} (inLine : InLine rounds k q) {round : Round}
    (other : round.queue ≠ k) : InLine (rounds ++ [round]) k q where
  ordered := inLine.ordered
  later a mem here := by
    rcases List.mem_append.1 mem with old | new
    · exact inLine.later a old here
    · exact absurd (List.mem_singleton.1 new ▸ here) other
  ended a mem here := by
    rcases List.mem_append.1 mem with old | new
    · exact inLine.ended a old here
    · exact absurd (List.mem_singleton.1 new ▸ here) other
  last := by
    refine inLine.last.imp_right ?_
    rintro ⟨a, mem, rest⟩
    exact ⟨a, List.mem_append_left _ mem, rest⟩

/-- A command with a later number may be put into the queue. -/
theorem InLine.submitted {rounds : List Round} (inLine : InLine rounds k q) {e : EventHandle}
    (pending : ∀ p ∈ q.pending, p.id < e.id)
    (ran : ∀ round ∈ rounds, ∀ run ∈ round.runs, run.1.id < e.id) :
    InLine rounds k { q with pending := q.pending ++ [e] } where
  ordered := by
    refine List.pairwise_append.2 ⟨inLine.ordered, List.pairwise_singleton _ _, ?_⟩
    intro p old new here
    rw [List.mem_singleton.1 here]
    exact pending p old
  later round mem here run among p waiting := by
    rcases List.mem_append.1 waiting with old | new
    · exact inLine.later round mem here run among p old
    · rw [List.mem_singleton.1 new]
      exact ran round mem run among
  ended := inLine.ended
  last := inLine.last

/-- A start of the queue is remembered with its last end if it succeeds; nothing is pending then. -/
theorem InLine.drained {rounds : List Round} (inLine : InLine rounds k q) {round : Round} {r : Queue}
    (here : round.queue = k) (idle : r.pending = []) (grown : q.lastEnd ≤ r.lastEnd)
    (ended : round.succeeded = true → ∀ run ∈ round.runs, run.2.ended ≤ r.lastEnd)
    (last : r.lastEnd = q.lastEnd ∨
      round.succeeded = true ∧ ∃ run ∈ round.runs, r.lastEnd = run.2.ended) :
    InLine (rounds ++ [round]) k r where
  ordered := idle ▸ List.Pairwise.nil
  later a _ _ run _ e mem := absurd (idle ▸ mem) List.not_mem_nil
  ended a mem on succeeded run ran := by
    rcases List.mem_append.1 mem with old | new
    · exact Nat.le_trans (inLine.ended a old on succeeded run ran) grown
    · obtain rfl := List.mem_singleton.1 new
      exact ended succeeded run ran
  last := by
    rcases last with same | ⟨succeeded, run, ran, same⟩
    · rw [same]
      refine inLine.last.imp_right ?_
      rintro ⟨a, mem, rest⟩
      exact ⟨a, List.mem_append_left _ mem, rest⟩
    · exact .inr ⟨round, List.mem_append_right _ List.mem_cons_self, here, succeeded, run, ran, same⟩

/-- Commands of a queue are carried out as they were put into it, and in order one after the other
as far as starts succeed. -/
structure Serial (c : Chronicle) : Prop where
  /-- What queues remember. -/
  queues : ∀ k q, c.state.queues.get? k = some q → InLine c.rounds k q
  /-- Later starts of a queue come after earlier ones. -/
  rounds : c.rounds.Pairwise fun a b => a.queue = b.queue → a.Precedes b
  /-- So do the commands of one start. -/
  runs : ∀ round ∈ c.rounds, round.Serial
  /-- A start finds the last end of commands that were put into the queue before its own. -/
  since : ∀ round ∈ c.rounds, ∀ q, round.before.queues.get? round.queue = some q →
    q.lastEnd = 0 ∨ ∃ a ∈ c.rounds, a.queue = round.queue ∧ a.succeeded = true ∧
      ∃ run ∈ a.runs, q.lastEnd = run.2.ended ∧ ∀ other ∈ round.runs, run.1.id < other.1.id

theorem serial_start : Serial {} where
  queues k q found := by contradiction
  rounds := List.Pairwise.nil
  runs _ mem := absurd mem List.not_mem_nil
  since _ mem := absurd mem List.not_mem_nil

/-! ### Starts -/

section
variable {outcome : EStateM.Result Status Simulator Unit} {answered : Bool}

theorem inOrder_iff (found : c.state.queues.get? queue = some q) :
    Round.InOrder ⟨c.state, queue, answered⟩ ↔ q.properties.outOfOrder = false := by
  rw [Round.InOrder, propertiesOf, found]
  simp

theorem carried_inOrder (found : c.state.queues.get? queue = some q)
    (launch : Launch c.state queue q (c.state.runsOf queue) outcome)
    (inOrder : Round.InOrder ⟨c.state, queue, answered⟩) : ∃ last v,
      CarriesOut c.state.clock true q.lastEnd (c.state.taken queue) (c.state.runsOf queue) last v := by
  obtain ⟨last, v, carried⟩ := launch.carried
  rw [(inOrder_iff found).1 inOrder] at carried
  exact ⟨last, v, carried⟩

/-- The commands of one start are carried out as they were put into the queue. -/
theorem serial_of_launch {rounds : List Round} (inLine : InLine rounds queue q)
    (found : c.state.queues.get? queue = some q)
    (launch : Launch c.state queue q (c.state.runsOf queue) outcome) :
    Round.Serial ⟨c.state, queue, answered⟩ := by
  have numbered := inLine.ordered.sublist launch.pending_prefix.sublist
  rw [List.pairwise_map] at numbered
  by_cases inOrder : Round.InOrder ⟨c.state, queue, answered⟩
  · obtain ⟨last, v, carried⟩ := carried_inOrder found launch inOrder
    exact numbered.and (carried.serial.2.imp fun ended _ => ended)
  · exact numbered.imp fun less => ⟨less, fun h => absurd h inOrder⟩

/-- They come after those of earlier starts. -/
theorem precedes_of_launch (inLine : InLine c.rounds queue q)
    (found : c.state.queues.get? queue = some q)
    (launch : Launch c.state queue q (c.state.runsOf queue) outcome) {a : Round} (mem : a ∈ c.rounds)
    (here : a.queue = queue) : a.Precedes ⟨c.state, queue, answered⟩ where
  numbered x ran y follows :=
    inLine.later a mem here x ran y.1 (launch.pending_prefix.subset (List.mem_map_of_mem follows))
  ended succeeded inOrder x ran y follows := by
    obtain ⟨last, v, carried⟩ := carried_inOrder found launch inOrder
    exact Nat.le_trans (inLine.ended a mem here succeeded x ran) (carried.serial.1 y follows)

/-- The queue remembers the start. -/
theorem inLine_of_launch (inLine : InLine c.rounds queue q)
    (found : c.state.queues.get? queue = some q)
    (launch : Launch c.state queue q (c.state.runsOf queue) outcome) {r : Queue}
    (there : (stateOf outcome).queues.get? queue = some r) :
    InLine (c.rounds ++ [⟨c.state, queue, answers outcome⟩]) queue r := by
  have drained := drained_taken found
  cases launch with
  | @succeeded last v carried all clock later =>
    obtain ⟨grown, by_last, attained⟩ := carried.last_eq
    have settled := ((drained.advanced carried.advanced).settled last).timed clock
    obtain rfl := Option.some.inj (settled.here.symm.trans there)
    refine inLine.drained rfl rfl grown (fun _ => by_last) ?_
    exact attained.imp_right fun found => ⟨rfl, found⟩
  | failed carried pending stopped =>
    have advanced := drained.advanced (carried.advanced_stopped stopped)
    obtain rfl := Option.some.inj (advanced.here.symm.trans there)
    exact inLine.drained rfl rfl (Nat.le_refl _) nofun (.inl rfl)

end

namespace Serial

/-- A start comes after those before it, and so do the commands that it carries out. -/
theorem started (serial : c.Serial) {outcome : EStateM.Result Status Simulator Unit}
    (there : c.state.queues.get? queue = some q)
    (launch : Launch c.state queue q (c.state.runsOf queue) outcome) :
    Serial { c with
      state := stateOf outcome
      rounds := c.rounds ++ [⟨c.state, queue, answers outcome⟩] } := by
  have inLine := serial.queues queue q there
  have precedes : ∀ a ∈ c.rounds, a.queue = queue → a.Precedes ⟨c.state, queue, answers outcome⟩ :=
    fun a before here => precedes_of_launch inLine there launch before here
  refine ⟨fun k p found => ?_, ?_, fun round mem => ?_, fun round mem p found => ?_⟩
  · by_cases same : queue = k
    · subst same
      exact inLine_of_launch inLine there launch found
    · obtain ⟨r, drained⟩ := launch.drained there
      rw [drained.elsewhere k same] at found
      exact (serial.queues k p found).append same
  · refine List.pairwise_append.2 ⟨serial.rounds, List.pairwise_singleton _ _, ?_⟩
    intro a old b new here
    rw [List.mem_singleton.1 new] at here ⊢
    exact precedes a old here
  · rcases List.mem_append.1 mem with old | new
    · exact serial.runs round old
    · rw [List.mem_singleton.1 new]
      exact serial_of_launch inLine there launch
  · rcases List.mem_append.1 mem with old | new
    · refine (serial.since round old p found).imp_right ?_
      rintro ⟨a, before, rest⟩
      exact ⟨a, List.mem_append_left _ before, rest⟩
    · rw [List.mem_singleton.1 new] at found ⊢
      obtain rfl := Option.some.inj (there.symm.trans found)
      refine inLine.last.imp_right ?_
      rintro ⟨a, before, here, succeeded, run, ran, same⟩
      exact ⟨a, List.mem_append_left _ before, here, succeeded, run, ran, same,
        (precedes a before here).numbered run ran⟩

theorem turn (serial : c.Serial) (sound : c.Sound) (clocked : c.Clocked) (turn : Turn c u) :
    u.Serial := by
  cases turn with
  | quiet same =>
    refine { serial with queues := fun k q found => ?_ }
    rw [same.queues] at found
    exact serial.queues k q found
  | created properties =>
    refine { serial with queues := fun k q found => ?_ }
    by_cases new : ⟨c.state.nextId⟩ = k
    · rw [new, Table.get?_insert_self] at found
      obtain rfl := Option.some.inj found
      -- No queue of this number was started before.
      refine ⟨List.Pairwise.nil, fun _ _ _ _ _ e mem => absurd mem List.not_mem_nil, ?_, .inl rfl⟩
      rintro round mem rfl
      have present := sound.reachable.numbered.queues _ (clocked.working round mem).1
      rw [← new] at present
      exact absurd present (Nat.lt_irrefl _)
    · rw [Table.get?_insert_of_ne _ new] at found
      exact serial.queues k q found
  | @commissioned queue p there command wait live =>
    refine { serial with queues := fun k q found => ?_ }
    by_cases same : queue = k
    · rw [← same, submitted, Table.get?_modify_self, there] at found
      obtain rfl := Option.some.inj found
      rw [← same]
      refine (serial.queues queue p there).submitted (fun e old => ?_) fun round mem run ran => ?_
      · obtain ⟨o, mine, rfl, -⟩ := sound.pending there old
        exact sound.issued mine
      · obtain ⟨o, mine, same, -⟩ := clocked.punctual round mem run ran
        rw [← same]
        exact sound.issued mine
    · rw [submitted, Table.get?_modify_of_ne _ same] at found
      exact serial.queues k q found
  | returned live => exact { serial with queues := serial.queues }
  | started there launch => exact serial.started there launch

end Serial

/-- Queues work serially in every history, as far as starts succeed. -/
theorem serial_of (history : List Happening) : (of history).Serial := by
  have all : (of history).Faithful ∧ (of history).Clocked ∧ (of history).Serial :=
    of_induction (motive := fun c => c.Faithful ∧ c.Clocked ∧ c.Serial)
      (fun c u sound later h turn => ⟨h.1.turn sound later turn, h.2.1.turn sound h.1 turn,
        h.2.2.turn sound h.2.1 turn⟩)
      ⟨faithful_start, clocked_start, serial_start⟩ history
  exact all.2.2

/-! ### The law -/

theorem rel_of_pairwise {α : Type} {R : α → α → Prop} {l : List α} (pairwise : l.Pairwise R)
    {a b : α} (ha : a ∈ l) (hb : b ∈ l) : a = b ∨ R a b ∨ R b a :=
  List.Pairwise.forall_of_forall_of_flip (R := fun a b => a = b ∨ R a b ∨ R b a)
    (fun _ _ => .inl rfl) (pairwise.imp fun h => .inr (.inl h)) (pairwise.imp fun h => .inr (.inr h))
    ha hb

section
variable {o p : Commission} {a b : Round} {x y : Execution}

/-- A command that was put into a queue earlier has a lower number. -/
theorem Clocked.id_lt (clocked : c.Clocked) (ho : o ∈ c.commissions) (hp : p ∈ c.commissions)
    (earlier : o.queued < p.queued) : o.event.id < p.event.id := by
  rcases rel_of_pairwise clocked.ordered ho hp with rfl | before | after
  · exact absurd earlier (Nat.lt_irrefl _)
  · exact before.1
  · exact absurd earlier (Nat.lt_asymm after.2)

theorem Clocked.punctual_of (clocked : c.Clocked) (sound : c.Sound) (ho : o ∈ c.commissions)
    (ha : a ∈ c.rounds) (ran : (o.event, x) ∈ a.runs) : Punctual c.log a o x := by
  obtain ⟨q, mine, same, punctual⟩ := clocked.punctual a ha (o.event, x) ran
  obtain rfl := sound.commission_unique mine ho same
  exact punctual

/-- Whether the queue of a start works in order does not change. -/
theorem Clocked.inOrder_iff (clocked : c.Clocked) (ha : a ∈ c.rounds) :
    a.InOrder ↔ (c.state.propertiesOf a.queue).map (·.outOfOrder) = some false := by
  rw [Round.InOrder, (clocked.working a ha).2]

/-- Of two commands of a queue that works in order, the earlier had ended before the other began, if
one start carried them out or the first was carried out by a start that succeeded. -/
theorem Serial.ended_le_started (serial : c.Serial) (clocked : c.Clocked) (sound : c.Sound)
    (ho : o ∈ c.commissions) (hp : p ∈ c.commissions) (on : o.queue = p.queue)
    (inOrder : (c.state.propertiesOf o.queue).map (·.outOfOrder) = some false)
    (earlier : o.queued < p.queued) (ha : a ∈ c.rounds) (hb : b ∈ c.rounds)
    (ran : (o.event, x) ∈ a.runs) (follows : (p.event, y) ∈ b.runs)
    (fine : a.succeeded = true ∨ (p.event, y) ∈ a.runs) : x.ended ≤ y.started := by
  have less := clocked.id_lt ho hp earlier
  have first := (clocked.punctual_of sound ho ha ran).queue
  have second := (clocked.punctual_of sound hp hb follows).queue
  have together : (p.event, y) ∈ a.runs → x.ended ≤ y.started := by
    intro here
    rw [first] at inOrder
    rcases rel_of_pairwise (serial.runs a ha) ran here with same | before | after
    · rw [(Prod.mk.inj same).1] at less
      exact absurd less (Nat.lt_irrefl _)
    · exact before.2 ((clocked.inOrder_iff ha).2 inOrder)
    · exact absurd less (Nat.lt_asymm after.1)
  rcases fine with succeeded | here
  · have queues : a.queue = b.queue := by rw [← first, ← second, on]
    rcases rel_of_pairwise serial.rounds ha hb with same | before | after
    · exact together (same ▸ follows)
    · rw [on, second] at inOrder
      exact (before queues).ended succeeded ((clocked.inOrder_iff hb).2 inOrder) _ ran _ follows
    · exact absurd less (Nat.lt_asymm ((after queues.symm).numbered _ follows _ ran))
  · exact together here

/-- The other way round: a command that had ended when another of its queue began was put there
earlier, if one start carried them out. -/
theorem Serial.queued_lt (serial : c.Serial) (clocked : c.Clocked) (sound : c.Sound)
    (ho : o ∈ c.commissions) (hp : p ∈ c.commissions) (ha : a ∈ c.rounds) (inOrder : a.InOrder)
    (ran : (o.event, x) ∈ a.runs) (other : (p.event, y) ∈ a.runs) (ended : y.ended ≤ x.started) :
    p.queued < o.queued := by
  have first := clocked.punctual_of sound ho ha ran
  have second := clocked.punctual_of sound hp ha other
  have takes := first.onTime.ended ▸ Nat.lt_add_of_pos_right first.takes
  have takes' := second.onTime.ended ▸ Nat.lt_add_of_pos_right second.takes
  rcases rel_of_pairwise clocked.ordered hp ho with rfl | before | after
  · obtain rfl := sound.logged_once (List.mem_flatMap.2 ⟨a, ha, ran⟩)
      (List.mem_flatMap.2 ⟨a, ha, other⟩)
    exact absurd ended (Nat.not_le_of_lt takes)
  · exact before.2
  · have works := (clocked.inOrder_iff ha).1 inOrder
    rw [← first.queue] at works
    have later := serial.ended_le_started clocked sound ho hp (first.queue.trans second.queue.symm)
      works after.2 ha ha ran other (.inr other)
    omega

end

/-- On a queue that works in order a command begins the very moment when it is started, when the
last event that it waits for has ended, or when the last of those earlier commands has that were
carried out by the same start or by one that succeeded. -/
theorem started_isGreatest (history : List Happening) {o : Commission} {a : Round} {x : Execution}
    (ho : o ∈ (of history).commissions) (ha : a ∈ (of history).rounds) (inOrder : a.InOrder)
    (ran : (o.event, x) ∈ a.runs) :
    IsGreatest ({x.submitted} ∪ {n | ∃ w ∈ o.wait, ∃ y, (w, y) ∈ (of history).log ∧ y.ended = n} ∪
      {n | ∃ p ∈ (of history).commissions, p.queue = o.queue ∧ p.queued < o.queued ∧
        ∃ b ∈ (of history).rounds, ∃ z, (p.event, z) ∈ b.runs ∧
          (b.succeeded = true ∨ (o.event, x) ∈ b.runs) ∧ z.ended = n}) x.started := by
  have sound := sound_of history
  have clocked := clocked_of history
  have serial := serial_of history
  have punctual := clocked.punctual_of sound ho ha ran
  have works := (clocked.inOrder_iff ha).1 inOrder
  have atStart : x.started = 0 → x.started = x.submitted := by
    intro zero
    have after := punctual.onTime.after
    omega
  constructor
  · obtain ⟨q, found, now | awaited | zero | ⟨-, last | ⟨other, there, same⟩⟩⟩ := punctual.prompt
    · exact .inl (.inl now)
    · exact .inl (.inr awaited)
    · exact .inl (.inl (atStart zero))
    · rcases serial.since a ha q found with zero | ⟨b, hb, on, succeeded, run, before, same, lower⟩
      · exact .inl (.inl (atStart (last.trans zero)))
      · obtain ⟨p, hp, event, earlier⟩ := clocked.punctual b hb run before
        refine .inr ⟨p, hp, ?_, ?_, b, hb, run.2, event ▸ before, .inl succeeded, ?_⟩
        · rw [earlier.queue, on, punctual.queue]
        · have less := lower _ ran
          rw [← event] at less
          rcases rel_of_pairwise clocked.ordered hp ho with rfl | first | second
          · exact absurd less (Nat.lt_irrefl _)
          · exact first.2
          · exact absurd less (Nat.lt_asymm second.1)
        · rw [last, same]
    · obtain ⟨p, hp, event, here⟩ := clocked.punctual a ha other there
      have mine : (p.event, other.2) ∈ a.runs := event ▸ there
      refine .inr ⟨p, hp, here.queue.trans punctual.queue.symm, ?_, a, ha, other.2, mine, .inr ran,
        same.symm⟩
      exact serial.queued_lt clocked sound ho hp ha inOrder ran mine (Nat.le_of_eq same.symm)
  · rintro n ((now | ⟨w, mem, y, logged, rfl⟩) | ⟨p, hp, on, earlier, b, hb, z, before, fine, rfl⟩)
    · rw [now]
      exact punctual.onTime.after
    · obtain ⟨y', same, by_start⟩ := punctual.onTime.awaited w mem
      rwa [sound.logged_once logged same]
    · rw [← punctual.queue, ← on] at works
      exact serial.ended_le_started clocked sound hp ho on works earlier hb ha before ran fine

/-- Whatever has happened: of two commands of a queue that works in order and that were both carried
out, the one that was put there earlier had ended before the other began, if one start carried them
out, or if the start that carried out the first succeeded. -/
theorem serial_unless_failed (history : List Happening) :
    ∀ o ∈ (of history).commissions, ∀ p ∈ (of history).commissions, o.queue = p.queue →
      ((of history).state.propertiesOf o.queue).map (·.outOfOrder) = some false →
      o.queued < p.queued → ∀ a ∈ (of history).rounds, ∀ x y, (o.event, x) ∈ a.runs →
      (p.event, y) ∈ (of history).log → a.succeeded = true ∨ (p.event, y) ∈ a.runs →
      x.ended ≤ y.started := by
  intro o ho p hp on inOrder earlier a ha x y ran logged fine
  obtain ⟨b, hb, follows⟩ := List.mem_flatMap.1 logged
  exact (serial_of history).ended_le_started (clocked_of history) (sound_of history) ho hp on inOrder
    earlier ha hb ran follows fine

/-- Two copies are put into a queue that works in order. The second cannot run, since its buffer is
gone, and the start fails after the first. Another copy is put into the queue, and started. -/
def forgotten : List Happening :=
  [.platform "xilinx" [⟨"u200", false, false⟩], .request (.createContext ⟨0⟩),
    .request (.createQueue ⟨1⟩ ⟨0⟩ { outOfOrder := false }),
    .request (.createBuffer ⟨1⟩ .readWrite 4 none none),
    .request (.createBuffer ⟨1⟩ .readWrite 4 none none),
    .request (.enqueueMigrate ⟨2⟩ [⟨3⟩] .toDevice []),
    .request (.enqueueMigrate ⟨2⟩ [⟨4⟩] .toDevice []), .request (.releaseBuffer ⟨4⟩),
    .request (.flush ⟨2⟩), .request (.enqueueMigrate ⟨2⟩ [⟨3⟩] .toDevice []),
    .request (.flush ⟨2⟩)]

/-- One more copy is put into the queue, and started. -/
def resumed : List Happening :=
  forgotten ++ [.request (.enqueueMigrate ⟨2⟩ [⟨3⟩] .toDevice []), .request (.flush ⟨2⟩)]

/-- The fourth copy, event 8, waits for the third, event 7, whose start succeeded. -/
theorem serial_unless_failed_resumed :
    (⟨⟨2⟩, ⟨7⟩, .migrate [⟨3⟩] .toDevice, [], 300⟩ : Commission) ∈ (of resumed).commissions ∧
    (⟨⟨2⟩, ⟨8⟩, .migrate [⟨3⟩] .toDevice, [], 400⟩ : Commission) ∈ (of resumed).commissions ∧
    ((of resumed).state.propertiesOf ⟨2⟩).map (·.outOfOrder) = some false ∧
    ∃ a ∈ (of resumed).rounds, a.succeeded = true ∧
      ((⟨7⟩, ⟨300, 300, 1301⟩) : EventHandle × Execution) ∈ a.runs ∧
      ((⟨8⟩, ⟨400, 1301, 2302⟩) : EventHandle × Execution) ∈ (of resumed).log ∧
      (⟨300, 300, 1301⟩ : Execution).ended ≤ (⟨400, 1301, 2302⟩ : Execution).started := by
  have third : (⟨⟨2⟩, ⟨7⟩, .migrate [⟨3⟩] .toDevice, [], 300⟩ : Commission) ∈
    (of resumed).commissions := by decide
  have fourth : (⟨⟨2⟩, ⟨8⟩, .migrate [⟨3⟩] .toDevice, [], 400⟩ : Commission) ∈
    (of resumed).commissions := by decide
  have logged : ((⟨8⟩, ⟨400, 1301, 2302⟩) : EventHandle × Execution) ∈ (of resumed).log := by decide
  have second : ∃ a ∈ (of resumed).rounds, a.succeeded = true ∧
      ((⟨7⟩, ⟨300, 300, 1301⟩) : EventHandle × Execution) ∈ a.runs :=
    ⟨(of resumed).rounds.get ⟨1, by decide⟩, List.get_mem _ _, rfl, by decide⟩
  obtain ⟨a, mem, succeeded, ran⟩ := second
  exact ⟨third, fourth, rfl, a, mem, succeeded, ran, logged, serial_unless_failed resumed _ third _
    fourth rfl rfl (by decide) a mem _ _ ran logged (.inl succeeded)⟩

/-- The third copy does not wait for the first, event 5, whose start failed: it begins at 300, and
the first ends at 1201. -/
theorem not_serial : ¬ ∀ (history : List Happening), ∀ o ∈ (of history).commissions,
    ∀ p ∈ (of history).commissions, o.queue = p.queue →
      ((of history).state.propertiesOf o.queue).map (·.outOfOrder) = some false →
      o.queued < p.queued → ∀ x y, (o.event, x) ∈ (of history).log →
      (p.event, y) ∈ (of history).log → x.ended ≤ y.started := by
  intro always
  have early := always forgotten ⟨⟨2⟩, ⟨5⟩, .migrate [⟨3⟩] .toDevice, [], 100⟩ (by decide)
    ⟨⟨2⟩, ⟨7⟩, .migrate [⟨3⟩] .toDevice, [], 300⟩ (by decide) rfl (by decide) (by decide)
    ⟨200, 200, 1201⟩ ⟨300, 300, 1301⟩ (by decide) (by decide)
  exact absurd early (by decide)

end Chronicle

end FpgaHost
