/-!
# Outcomes step by step

A computation that may fail answers a value exactly if its first step does and what follows answers
that value from there. One outcome follows another (`Follows`) if it is a value wherever the other
is, and the same one; two computations follow each other if their steps do. What is true of the
errors of every step is true of the errors of the whole (`FailsOnly`).
-/

namespace FpgaHost

variable {ε α β : Type}

theorem bind_eq_ok_iff {x : Except ε α} {f : α → Except ε β} {b : β} :
    x >>= f = .ok b ↔ ∃ a, x = .ok a ∧ f a = .ok b := by
  cases x with
  | error e =>
    constructor
    · rintro ⟨⟩
    · rintro ⟨a, ⟨⟩, -⟩
  | ok a =>
    constructor
    · exact fun h => ⟨a, rfl, h⟩
    · rintro ⟨a, ⟨⟩, h⟩
      exact h

@[simp] theorem ok_bind (a : α) (f : α → Except ε β) : Except.ok a >>= f = f a := rfl

@[simp] theorem error_bind (e : ε) (f : α → Except ε β) : Except.error e >>= f = .error e := rfl

/-- Wherever one outcome is a value, another is the same value. -/
def Follows (x y : Except ε α) : Prop := ∀ a, x = .ok a → y = .ok a

namespace Follows

theorem refl (x : Except ε α) : Follows x x := fun _ h => h

theorem bind {x y : Except ε α} {f g : α → Except ε β} (first : Follows x y)
    (rest : ∀ a, x = .ok a → Follows (f a) (g a)) : Follows (x >>= f) (y >>= g) := by
  intro b h
  obtain ⟨a, found, answered⟩ := bind_eq_ok_iff.1 h
  exact bind_eq_ok_iff.2 ⟨a, first a found, rest a found b answered⟩

theorem map {x y : Except ε α} (first : Follows x y) (f : α → β) :
    Follows (x.map f) (y.map f) := by
  intro b h
  cases x with
  | error e => contradiction
  | ok a => rwa [first a rfl]

end Follows

/-- Whatever error an outcome is has a property. -/
def FailsOnly (P : ε → Prop) (x : Except ε α) : Prop := ∀ e, x = .error e → P e

namespace FailsOnly

variable {P : ε → Prop}

theorem ok (a : α) : FailsOnly P (.ok a : Except ε α) := nofun

theorem error {e : ε} (h : P e) : FailsOnly P (.error e : Except ε α) := by
  rintro _ ⟨⟩
  exact h

/-- The second step is only ever taken from a value that the first one answers. -/
theorem bind {x : Except ε α} {f : α → Except ε β} (first : FailsOnly P x)
    (rest : ∀ a, x = .ok a → FailsOnly P (f a)) : FailsOnly P (x >>= f) := by
  intro e h
  cases x with
  | error e' =>
    obtain rfl : e' = e := Except.error.inj h
    exact first e' rfl
  | ok a => exact rest a rfl e h

theorem imp {Q : ε → Prop} {x : Except ε α} (h : FailsOnly P x) (weaker : ∀ e, P e → Q e) :
    FailsOnly Q x := fun e failed => weaker e (h e failed)

theorem mapError {ε' : Type} {Q : ε' → Prop} {f : ε → ε'} {x : Except ε α}
    (h : FailsOnly (fun e => Q (f e)) x) : FailsOnly Q (x.mapError f) := by
  cases x with
  | error e => exact .error (h e rfl)
  | ok a => exact .ok a

end FailsOnly

/-- An outcome is known from what it is with `some` around its value. -/
theorem eq_of_map_some {x y : Except ε α} (h : x.map some = y.map some) : x = y := by
  cases x with
  | error e =>
    cases y with
    | error e' => exact congrArg Except.error (Except.error.inj h)
    | ok b => contradiction
  | ok a =>
    cases y with
    | error e => contradiction
    | ok b => exact congrArg Except.ok (Option.some.inj (Except.ok.inj h))

theorem mapError_ok {ε' : Type} (f : ε → ε') (a : α) :
    (Except.ok a : Except ε α).mapError f = .ok a := rfl

theorem mapError_eq_ok_iff {ε' : Type} {f : ε → ε'} {x : Except ε α} {a : α} :
    x.mapError f = .ok a ↔ x = .ok a := by
  cases x with
  | error e => exact ⟨nofun, nofun⟩
  | ok a' => rw [mapError_ok, Except.ok.injEq, Except.ok.injEq]

end FpgaHost
