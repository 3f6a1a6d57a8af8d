import FpgaHost.Proofs.Simulator.Execution
import FpgaHost.Word

/-!
# Times that are words

The device counts time in words. Here the clock and the instants of commands are natural numbers,
and this makes no difference as long as all of them are words (`InWords`). For a time is never less
than those that it is computed from: if it is a word then so are they, and nothing was cut off on
the way to it.
-/

namespace FpgaHost

/-- All instants of a command that are known are words. -/
def EventRecord.InWords (record : EventRecord) : Prop :=
  IsWord record.queued ∧
    ∀ x ∈ record.execution, IsWord x.submitted ∧ IsWord x.started ∧ IsWord x.ended

instance : DecidablePred EventRecord.InWords := fun record =>
  inferInstanceAs (Decidable (IsWord record.queued ∧
    ∀ x ∈ record.execution, IsWord x.submitted ∧ IsWord x.started ∧ IsWord x.ended))

namespace Simulator

/-- All times of a simulator are words. -/
structure InWords (s : Simulator) : Prop where
  /-- The time is. -/
  clock : IsWord s.clock
  /-- So is when the queues became free. -/
  queues : ∀ q ∈ s.queues.values, IsWord q.lastEnd
  /-- So are the instants of commands. -/
  events : ∀ record ∈ s.events.values, record.InWords

instance : DecidablePred InWords := fun s =>
  decidable_of_iff (IsWord s.clock ∧ (∀ q ∈ s.queues.values, IsWord q.lastEnd) ∧
      ∀ record ∈ s.events.values, record.InWords)
    ⟨fun ⟨clock, queues, events⟩ => ⟨clock, queues, events⟩,
      fun words => ⟨words.clock, words.queues, words.events⟩⟩

variable {s : Simulator} {event : EventHandle} {x : Execution}

theorem InWords.ended (words : s.InWords) (ran : s.execution? event = some x) :
    IsWord x.ended := by
  obtain ⟨record, found, executed⟩ := Option.bind_eq_some_iff.1 ran
  have known := words.events record (Table.mem_values_iff.2 ⟨event, found⟩)
  exact (known.2 x executed).2.2

end Simulator

end FpgaHost
