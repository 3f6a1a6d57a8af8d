import FpgaHost.Table
import Mathlib.Data.List.Basic

/-!
# More on tables

A table is its entries (`ext_entries`) and what it answers (`ext_get?`), so what is true entry by
entry is true of the table (`map_congr`). An insertion adds a value or exchanges one
(`values_insert_of_none`, `values_insert_of_some`). A table that is filled from the least key up
lists its entries in the order in which they came (`Dense.insert`). Two tables of related values
(`Related`) stay so when both are changed in the same way.
-/

namespace FpgaHost.Table

variable {κ α β : Type} [Key κ]

theorem ext_entries {t u : Table κ α} (h : t.entries = u.entries) : t = u := by
  cases t
  cases u
  congr

theorem nodup_entries (t : Table κ α) : t.entries.Nodup := by
  refine t.ordered.imp fun {a b} less => ?_
  rintro rfl
  exact Nat.lt_irrefl _ less

/-- Tables that answer the same for every key are the same. -/
theorem ext_get? {t u : Table κ α} (h : ∀ k, t.get? k = u.get? k) : t = u := by
  have same : t.entries.Perm u.entries := by
    rw [List.perm_ext_iff_of_nodup t.nodup_entries u.nodup_entries]
    rintro ⟨k, v⟩
    rw [mem_entries_iff, mem_entries_iff, h]
  exact ext_entries (same.eq_of_pairwise (fun a b _ _ ab ba => absurd ab (Nat.lt_asymm ba))
    t.ordered u.ordered)

theorem nodup_keys (t : Table κ α) : t.keys.Nodup := by
  refine List.pairwise_map.2 (t.ordered.imp fun {a b} less same => ?_)
  rw [same] at less
  exact Nat.lt_irrefl _ less

/-- The keys of some of the entries lead to their values. -/
theorem filterMap_get?_keys_filter (t : Table κ α) (p : α → Bool) :
    (t.filter fun _ v => p v).keys.filterMap t.get? = t.values.filter p := by
  have values : (t.filter fun _ v => p v).entries.filterMap (fun e => t.get? e.1) =
      (t.filter fun _ v => p v).entries.map (·.2) := by
    rw [← List.filterMap_eq_map]
    exact List.filterMap_congr fun e mem => mem_entries_iff.1 (List.mem_filter.1 mem).1
  rw [keys, List.filterMap_map]
  refine values.trans ?_
  rw [filter, Table.values, List.filter_map]
  rfl

theorem map_congr {t : Table κ α} {f g : κ → α → β} (h : ∀ e ∈ t.entries, f e.1 e.2 = g e.1 e.2) :
    t.map f = t.map g := by
  refine ext_entries (List.map_congr_left fun e mem => ?_)
  rw [h e mem]

theorem map_self {t : Table κ α} {f : κ → α → α} (h : ∀ e ∈ t.entries, f e.1 e.2 = e.2) :
    t.map f = t := by
  refine ext_entries ((List.map_congr_left fun e mem => ?_).trans (List.map_id t.entries))
  rw [h e mem]
  rfl

theorem mem_entries_insert {t : Table κ α} {k : κ} {v : α} {e : κ × α}
    (h : e ∈ (t.insert k v).entries) : e = (k, v) ∨ e ∈ t.entries :=
  mem_place h

/-! ### Values -/

theorem place_values_of_none {k : κ} {es : List (κ × α)} (v : α) (none : find k es = none) :
    ((place k v es).map (·.2)).Perm (v :: es.map (·.2)) := by
  induction es with
  | nil => exact .refl _
  | cons e rest ih =>
    unfold place
    rw [find] at none
    split at none
    · contradiction
    next ne =>
      split
      · exact .refl _
      · rw [if_neg (Ne.symm ne)]
        exact ((ih none).cons e.2).trans (.swap v e.2 _)

theorem place_values_of_some {k : κ} {w : α} {es : List (κ × α)} (v : α)
    (ordered : es.Pairwise fun a b => Key.rank a.1 < Key.rank b.1) (found : find k es = some w) :
    (w :: (place k v es).map (·.2)).Perm (v :: es.map (·.2)) := by
  induction es with
  | nil => contradiction
  | cons e rest ih =>
    rw [List.pairwise_cons] at ordered
    unfold place
    rw [find] at found
    split at found
    next same =>
      obtain rfl := Option.some.inj found
      rw [if_neg (by omega), if_pos same.symm]
      exact .swap v e.2 _
    next ne =>
      have later := ordered.1 (k, w) ((find_eq_some_iff ordered.2).1 found)
      rw [if_neg (Nat.lt_asymm later), if_neg (Ne.symm ne)]
      exact (List.Perm.swap e.2 w _).trans (((ih ordered.2 found).cons e.2).trans (.swap v e.2 _))

/-- A key without a value adds one to the values. -/
theorem values_insert_of_none {t : Table κ α} {k : κ} (v : α) (none : t.get? k = none) :
    (t.insert k v).values.Perm (v :: t.values) :=
  place_values_of_none v none

/-- A key with a value exchanges it for another. -/
theorem values_insert_of_some {t : Table κ α} {k : κ} {w : α} (v : α) (found : t.get? k = some w) :
    (w :: (t.insert k v).values).Perm (v :: t.values) :=
  place_values_of_some v t.ordered found

/-! ### The view `get?` -/

theorem contains_iff {t : Table κ α} {k : κ} : t.contains k = true ↔ ∃ v, t.get? k = some v :=
  Option.isSome_iff_exists

theorem contains_eq_false_iff {t : Table κ α} {k : κ} :
    t.contains k = false ↔ t.get? k = none := by
  rw [contains, Option.isSome_eq_false_iff, Option.isNone_iff_eq_none]

/-- A table without entries is one without keys. -/
theorem size_eq_zero_iff {t : Table κ α} : t.size = 0 ↔ ∀ k, t.contains k = false := by
  rw [size, List.length_eq_zero_iff, List.eq_nil_iff_forall_not_mem]
  constructor
  · intro none k
    rw [← Bool.not_eq_true, contains_iff]
    rintro ⟨v, found⟩
    exact none (k, v) (mem_entries_iff.2 found)
  · rintro none ⟨k, v⟩ mem
    have there := contains_iff.2 ⟨v, mem_entries_iff.1 mem⟩
    rw [none] at there
    contradiction

theorem get?_modify_self (t : Table κ α) (k : κ) (f : α → α) :
    (t.modify k f).get? k = (t.get? k).map f := by
  rw [get?_modify, if_pos rfl]

theorem get?_modify_of_ne (t : Table κ α) {j k : κ} (ne : k ≠ j) (f : α → α) :
    (t.modify k f).get? j = t.get? j := by
  rw [get?_modify, if_neg fun h => ne (Key.eq_of_rank_eq h)]

theorem get?_insert_of_ne (t : Table κ α) {j k : κ} (ne : k ≠ j) (v : α) :
    (t.insert k v).get? j = t.get? j := by
  rw [get?_insert, if_neg fun h => ne (Key.eq_of_rank_eq h)]

theorem contains_modify (t : Table κ α) (j k : κ) (f : α → α) :
    (t.modify k f).contains j = t.contains j := by
  rw [contains, contains, get?_modify]
  split
  · exact Option.isSome_map
  · rfl

theorem contains_insert {t : Table κ α} {j k : κ} {v : α} :
    (t.insert k v).contains j = true ↔ j = k ∨ t.contains j = true := by
  rw [contains, get?_insert]
  split
  next same => simp [Key.eq_of_rank_eq same]
  next ne => simp [contains, show j ≠ k from fun h => ne (h ▸ rfl)]

theorem contains_erase {t : Table κ α} {j k : κ} :
    (t.erase k).contains j = true ↔ j ≠ k ∧ t.contains j = true := by
  rw [contains, get?_erase]
  split
  next same => simp [Key.eq_of_rank_eq same]
  next ne => simp [contains, show j ≠ k from fun h => ne (h ▸ rfl)]

theorem get?_erase_of_ne (t : Table κ α) {j k : κ} (ne : k ≠ j) :
    (t.erase k).get? j = t.get? j := by
  rw [get?_erase, if_neg fun h => ne (Key.eq_of_rank_eq h)]

theorem contains_erase_of_ne (t : Table κ α) {j k : κ} (ne : k ≠ j) :
    (t.erase k).contains j = t.contains j := by
  rw [contains, get?_erase_of_ne t ne, contains]

theorem erase_comm (t : Table κ α) (j k : κ) : (t.erase j).erase k = (t.erase k).erase j := by
  refine ext_get? fun i => ?_
  simp only [get?_erase]
  split <;> split <;> rfl

theorem erase_insert_of_ne (t : Table κ α) {j k : κ} (ne : k ≠ j) (v : α) :
    (t.insert j v).erase k = (t.erase k).insert j v := by
  refine ext_get? fun i => ?_
  simp only [get?_erase, get?_insert]
  split
  next at_k =>
    have other : ¬Key.rank j = Key.rank i := fun at_j =>
      ne (Key.eq_of_rank_eq (at_k.trans at_j.symm))
    rw [if_neg other]
  next => rfl

theorem erase_insert_self {t : Table κ α} {k : κ} (absent : t.contains k = false) (v : α) :
    (t.insert k v).erase k = t := by
  refine ext_get? fun j => ?_
  rw [get?_erase, get?_insert]
  split
  next same => rw [← Key.eq_of_rank_eq same, contains_eq_false_iff.1 absent]
  next => rfl

theorem size_insert {t : Table κ α} {k : κ} (absent : t.contains k = false) (v : α) :
    (t.insert k v).size = t.size + 1 := by
  have values := (values_insert_of_none v (contains_eq_false_iff.1 absent)).length_eq
  simpa only [size, Table.values, List.length_map, List.length_cons] using values

theorem contains_of_contains_filter {t : Table κ α} {p : κ → α → Bool} {k : κ}
    (there : (t.filter p).contains k = true) : t.contains k = true := by
  rw [contains, get?_filter] at there
  obtain ⟨v, found⟩ := Option.isSome_iff_exists.1 there
  exact contains_iff.2 ⟨v, (Option.filter_eq_some_iff.1 found).1⟩

theorem place_of_lt {k : κ} {v : α} {es : List (κ × α)}
    (last : ∀ e ∈ es, Key.rank e.1 < Key.rank k) : place k v es = es ++ [(k, v)] := by
  induction es with
  | nil => rfl
  | cons e rest ih =>
    have before := last e List.mem_cons_self
    rw [place, if_neg (by omega), if_neg (by omega),
      ih fun d mem => last d (List.mem_cons_of_mem e mem), List.cons_append]

/-! ### Maps -/

section

variable {γ : Type} {f : κ → α → β}

theorem map_map (t : Table κ α) (f : κ → α → β) (g : κ → β → γ) :
    (t.map f).map g = t.map fun k v => g k (f k v) := by
  refine ext_get? fun k => ?_
  rw [get?_map, get?_map, get?_map, Option.map_map]
  rfl

theorem map_insert (t : Table κ α) (f : κ → α → β) (k : κ) (v : α) :
    (t.insert k v).map f = (t.map f).insert k (f k v) := by
  refine ext_get? fun j => ?_
  rw [get?_map, get?_insert, get?_insert, get?_map]
  split
  next same => rw [Key.eq_of_rank_eq same, Option.map_some]
  next => rfl

theorem map_modify (t : Table κ α) {k : κ} {g : α → α} {h : β → β}
    (commutes : ∀ v, f k (g v) = h (f k v)) : (t.modify k g).map f = (t.map f).modify k h := by
  refine ext_get? fun j => ?_
  rw [get?_map, get?_modify, get?_modify, get?_map]
  split
  next same =>
    obtain rfl := Key.eq_of_rank_eq same
    rw [Option.map_map, Option.map_map]
    exact congrFun (congrArg Option.map (funext commutes)) _
  next => rfl

theorem map_filter (t : Table κ α) {p : κ → α → Bool} {q : κ → β → Bool}
    (agree : ∀ k v, q k (f k v) = p k v) : (t.filter p).map f = (t.map f).filter q := by
  refine ext_get? fun k => ?_
  rw [get?_map, get?_filter, get?_filter, get?_map]
  cases t.get? k with
  | none => rfl
  | some v => cases kept : p k v <;> simp [Option.filter, agree, kept]

theorem keys_map (t : Table κ α) (f : κ → α → β) : (t.map f).keys = t.keys := by
  rw [keys, keys, map, List.map_map]
  rfl

/-- Tables that have the same keys list them in the same order. -/
theorem keys_congr {t : Table κ α} {u : Table κ β} (same : ∀ k, t.contains k = u.contains k) :
    t.keys = u.keys := by
  have blank : t.map (fun _ _ => ()) = u.map fun _ _ => () := by
    refine ext_get? fun k => ?_
    have there := same k
    rw [contains, contains] at there
    rw [get?_map, get?_map]
    cases found : t.get? k <;> cases found' : u.get? k <;> simp_all
  rw [← keys_map t, blank, keys_map]

theorem values_map (t : Table κ α) (f : α → β) : (t.map fun _ => f).values = t.values.map f := by
  rw [values, values, map, List.map_map, List.map_map]
  rfl

end

/-! ### Tables of related values -/

section

/-- Two tables have the same keys, and related values. -/
def Related (R : α → α → Prop) (t u : Table κ α) : Prop :=
  ∀ k, Option.Rel R (t.get? k) (u.get? k)

variable {R : α → α → Prop} {t u : Table κ α}

theorem related_refl (refl : ∀ v, R v v) (t : Table κ α) : Related R t t := by
  intro k
  cases t.get? k with
  | none => exact .none
  | some v => exact .some (refl v)

/-- What goes back from a value to the one that is related to it holds of all values of the first
table if it holds of all values of the second. -/
theorem Related.forall_values {P : α → Prop} (related : Related R t u)
    (back : ∀ v w, R v w → P w → P v) (all : ∀ w ∈ u.values, P w) : ∀ v ∈ t.values, P v := by
  intro v mem
  obtain ⟨k, found⟩ := mem_values_iff.1 mem
  have values := related k
  rw [found] at values
  cases other : u.get? k with
  | none =>
    rw [other] at values
    contradiction
  | some w =>
    rw [other] at values
    cases values with
    | some values => exact back v w values (all w (mem_values_iff.2 ⟨k, other⟩))

theorem Related.insert (related : Related R t u) (k : κ) {v w : α} (new : R v w) :
    Related R (t.insert k v) (u.insert k w) := by
  intro j
  rw [get?_insert, get?_insert]
  split
  · exact .some new
  · exact related j

theorem Related.modify (related : Related R t u) (k : κ) {f g : α → α}
    (changed : ∀ v w, t.get? k = some v → u.get? k = some w → R v w → R (f v) (g w)) :
    Related R (t.modify k f) (u.modify k g) := by
  intro j
  have values := related j
  rw [get?_modify, get?_modify]
  split
  next same =>
    obtain rfl := Key.eq_of_rank_eq same
    cases v? : t.get? k <;> cases w? : u.get? k <;> rw [v?, w?] at values
    · exact .none
    · contradiction
    · contradiction
    · cases values with
      | some values => exact .some (changed _ _ v? w? values)
  · exact values

theorem Related.filter (related : Related R t u) {p q : κ → α → Bool}
    (same : ∀ k v w, t.get? k = some v → u.get? k = some w → p k v = q k w) :
    Related R (t.filter p) (u.filter q) := by
  intro j
  have values := related j
  rw [get?_filter, get?_filter]
  cases v? : t.get? j <;> cases w? : u.get? j <;> rw [v?, w?] at values
  · exact .none
  · contradiction
  · contradiction
  · rw [Option.filter, Option.filter, same j _ _ v? w?]
    split
    · exact values
    · exact .none

end

/-! ### Tables without gaps -/

/-- The keys of a table are the numbers below `n`. -/
def Dense (t : Table Nat α) (n : Nat) : Prop := t.keys = List.range n

namespace Dense

variable {t : Table Nat α} {n : Nat}

theorem empty : Dense (.empty : Table Nat α) 0 := rfl

theorem mem_lt (dense : Dense t n) {e : Nat × α} (mem : e ∈ t.entries) : e.1 < n := by
  rw [← List.mem_range, ← dense]
  exact List.mem_map_of_mem mem

theorem contains (dense : Dense t n) : t.contains n = false := by
  rw [← Bool.not_eq_true, ← mem_keys_iff, dense, List.mem_range]
  exact Nat.lt_irrefl n

theorem entries_insert (dense : Dense t n) (v : α) :
    (t.insert n v).entries = t.entries ++ [(n, v)] :=
  place_of_lt fun _ mem => dense.mem_lt mem

theorem insert (dense : Dense t n) (v : α) : Dense (t.insert n v) (n + 1) := by
  rw [Dense, keys, dense.entries_insert, List.map_append, List.range_succ, ← dense]
  rfl

end Dense

end FpgaHost.Table
