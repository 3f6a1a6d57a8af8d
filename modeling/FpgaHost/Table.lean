/-!
# Tables in key order

A table is a finite map kept as a list of entries in increasing key order, so that its listing is
determined by its contents. Keys are anything with an injective rank in the natural numbers:
argument indices, and the handles a device hands out.

Main statements: one equation per operation through the view `get?` (`get?_insert`, `get?_erase`,
`get?_modify`, `get?_filter`), and `mem_entries_iff` (a table lists exactly what `get?` answers).
-/

namespace FpgaHost

/-- Keys are ordered by a rank that tells them apart. -/
class Key (κ : Type) where
  /-- The position of a key in the order. -/
  rank : κ → Nat
  /-- Keys of one rank are one key. -/
  eq_of_rank_eq : ∀ {a b : κ}, rank a = rank b → a = b

instance : Key Nat := ⟨id, fun h => h⟩

variable {κ α β : Type} [Key κ]

/-- A finite map from keys to values, listed in increasing key order. -/
structure Table (κ α : Type) [Key κ] where
  /-- The entries in increasing key order. -/
  entries : List (κ × α) := []
  /-- The order of the entries; in particular no key occurs twice. -/
  ordered : entries.Pairwise (fun a b => Key.rank a.1 < Key.rank b.1) := by exact List.Pairwise.nil

namespace Table

/-! ### Entries -/

/-- The value of a key among entries. -/
def find (k : κ) : List (κ × α) → Option α
  | [] => none
  | e :: rest => if Key.rank e.1 = Key.rank k then some e.2 else find k rest

/-- Puts an entry at its place, instead of an entry with the same key. -/
def place (k : κ) (v : α) : List (κ × α) → List (κ × α)
  | [] => [(k, v)]
  | e :: rest =>
    if Key.rank k < Key.rank e.1 then (k, v) :: e :: rest
    else if Key.rank k = Key.rank e.1 then (k, v) :: rest
    else e :: place k v rest

theorem mem_place {k : κ} {v : α} {es : List (κ × α)} {e : κ × α} (h : e ∈ place k v es) :
    e = (k, v) ∨ e ∈ es := by
  induction es with
  | nil => simpa [place] using h
  | cons d rest ih =>
    unfold place at h
    split at h
    · simpa using h
    · split at h
      · rcases List.mem_cons.1 h with h | h
        · exact Or.inl h
        · exact Or.inr (List.mem_cons_of_mem d h)
      · rcases List.mem_cons.1 h with rfl | h
        · exact Or.inr List.mem_cons_self
        · exact (ih h).imp_right (List.mem_cons_of_mem d)

theorem ordered_place (k : κ) (v : α) {es : List (κ × α)}
    (h : es.Pairwise fun a b => Key.rank a.1 < Key.rank b.1) :
    (place k v es).Pairwise fun a b => Key.rank a.1 < Key.rank b.1 := by
  induction es with
  | nil => simp [place]
  | cons d rest ih =>
    rw [List.pairwise_cons] at h
    unfold place
    split
    · refine List.pairwise_cons.2 ⟨fun e he => ?_, List.pairwise_cons.2 h⟩
      rcases List.mem_cons.1 he with rfl | he
      · assumption
      · have := h.1 e he
        simp only
        omega
    · split
      · refine List.pairwise_cons.2 ⟨fun e he => ?_, h.2⟩
        have := h.1 e he
        simp only
        omega
      · refine List.pairwise_cons.2 ⟨fun e he => ?_, ih h.2⟩
        rcases mem_place he with rfl | he
        · simp only
          omega
        · exact h.1 e he

/-! ### Operations -/

/-- The table without entries. -/
def empty : Table κ α := {}

instance : Inhabited (Table κ α) := ⟨empty⟩

/-- The value of a key. -/
def get? (t : Table κ α) (k : κ) : Option α := find k t.entries

/-- Whether a key has a value. -/
def contains (t : Table κ α) (k : κ) : Bool := (t.get? k).isSome

/-- Gives a key a value, instead of the one it had. -/
def insert (t : Table κ α) (k : κ) (v : α) : Table κ α :=
  ⟨place k v t.entries, ordered_place k v t.ordered⟩

/-- Keeps the entries that satisfy a condition. -/
def filter (t : Table κ α) (p : κ → α → Bool) : Table κ α :=
  ⟨t.entries.filter fun e => p e.1 e.2, t.ordered.filter _⟩

/-- Removes a key. -/
def erase (t : Table κ α) (k : κ) : Table κ α :=
  t.filter fun j _ => Key.rank j != Key.rank k

/-- Replaces every value. -/
def map (t : Table κ α) (f : κ → α → β) : Table κ β :=
  ⟨t.entries.map fun e => (e.1, f e.1 e.2), List.pairwise_map.2 t.ordered⟩

/-- Replaces the value of one key, if it has one. -/
def modify (t : Table κ α) (k : κ) (f : α → α) : Table κ α :=
  t.map fun j v => if Key.rank j = Key.rank k then f v else v

/-- The number of entries. -/
def size (t : Table κ α) : Nat := t.entries.length

/-- Whether there is no entry. -/
def isEmpty (t : Table κ α) : Bool := t.entries.isEmpty

/-- The keys in increasing order. -/
def keys (t : Table κ α) : List κ := t.entries.map (·.1)

/-- The values in key order. -/
def values (t : Table κ α) : List α := t.entries.map (·.2)

/-- The greatest key. -/
def lastKey? (t : Table κ α) : Option κ := t.keys.getLast?

/-! ### The view `get?` -/

theorem find_eq_none {k : κ} {es : List (κ × α)}
    (h : ∀ e ∈ es, Key.rank e.1 ≠ Key.rank k) : find k es = none := by
  induction es with
  | nil => rfl
  | cons d rest ih =>
    rw [find, if_neg (h d (by simp)), ih fun e he => h e (by simp [he])]

theorem find_place (k j : κ) (v : α) {es : List (κ × α)}
    (h : es.Pairwise fun a b => Key.rank a.1 < Key.rank b.1) :
    find j (place k v es) = if Key.rank k = Key.rank j then some v else find j es := by
  induction es with
  | nil => simp [place, find]
  | cons d rest ih =>
    rw [List.pairwise_cons] at h
    unfold place
    split
    · simp [find]
    · split
      · by_cases hj : Key.rank k = Key.rank j
        · simp [find, hj]
        · simp only [find, if_neg hj]
          rw [if_neg (by omega)]
      · rw [find, ih h.2, find]
        by_cases hj : Key.rank k = Key.rank j
        · rw [if_neg (by omega), if_pos hj, if_pos hj]
        · rw [if_neg hj, if_neg hj]

theorem find_map (k : κ) (f : κ → α → β) (es : List (κ × α)) :
    find k (es.map fun e => (e.1, f e.1 e.2)) = (find k es).map (f k) := by
  induction es with
  | nil => rfl
  | cons d rest ih =>
    by_cases h : Key.rank d.1 = Key.rank k
    · simp [find, Key.eq_of_rank_eq h]
    · simp [find, h, ih]

@[simp] theorem get?_empty (k : κ) : (empty : Table κ α).get? k = none := rfl

theorem get?_insert (t : Table κ α) (k j : κ) (v : α) :
    (t.insert k v).get? j = if Key.rank k = Key.rank j then some v else t.get? j :=
  find_place k j v t.ordered

@[simp] theorem get?_insert_self (t : Table κ α) (k : κ) (v : α) :
    (t.insert k v).get? k = some v := by
  rw [get?_insert, if_pos rfl]

theorem get?_map (t : Table κ α) (f : κ → α → β) (k : κ) :
    (t.map f).get? k = (t.get? k).map (f k) :=
  find_map k f t.entries

theorem get?_modify (t : Table κ α) (k j : κ) (f : α → α) :
    (t.modify k f).get? j = if Key.rank k = Key.rank j then (t.get? j).map f else t.get? j := by
  rw [modify, get?_map]
  by_cases h : Key.rank k = Key.rank j
  · simp [h]
  · simp [h, Ne.symm h]

theorem find_filter (k : κ) (p : κ → α → Bool) {es : List (κ × α)}
    (h : es.Pairwise fun a b => Key.rank a.1 < Key.rank b.1) :
    find k (es.filter fun e => p e.1 e.2) = (find k es).filter (p k) := by
  induction es with
  | nil => rfl
  | cons d rest ih =>
    rw [List.pairwise_cons] at h
    by_cases hk : Key.rank d.1 = Key.rank k
    · obtain rfl := Key.eq_of_rank_eq hk
      have none : find d.1 (rest.filter fun e => p e.1 e.2) = none :=
        find_eq_none fun e he => by
          have := h.1 e (List.mem_filter.1 he).1
          omega
      by_cases hp : p d.1 d.2 <;> simp [find, hp, none, Option.filter]
    · by_cases hp : p d.1 d.2 <;> simp [find, hp, hk, ih h.2]

theorem get?_filter (t : Table κ α) (p : κ → α → Bool) (k : κ) :
    (t.filter p).get? k = (t.get? k).filter (p k) :=
  find_filter k p t.ordered

theorem get?_erase (t : Table κ α) (k j : κ) :
    (t.erase k).get? j = if Key.rank k = Key.rank j then none else t.get? j := by
  rw [erase, get?_filter]
  by_cases h : Key.rank k = Key.rank j
  · rw [if_pos h]
    cases t.get? j <;> simp [h]
  · rw [if_neg h]
    cases t.get? j <;> simp [Ne.symm h]

/-! ### Entries and the view -/

theorem find_eq_some_iff {k : κ} {v : α} {es : List (κ × α)}
    (h : es.Pairwise fun a b => Key.rank a.1 < Key.rank b.1) :
    find k es = some v ↔ (k, v) ∈ es := by
  induction es with
  | nil => simp [find]
  | cons d rest ih =>
    rw [List.pairwise_cons] at h
    by_cases hk : Key.rank d.1 = Key.rank k
    · obtain rfl := Key.eq_of_rank_eq hk
      have absent : (d.1, v) ∉ rest := fun he => by
        have := h.1 _ he
        simp only at this
        omega
      simp [find, absent, Prod.ext_iff, eq_comm]
    · have ne : (k, v) ≠ d := fun e => hk (by rw [← e])
      simp [find, hk, ih h.2, ne]

/-- A table lists exactly the pairs that `get?` answers. -/
theorem mem_entries_iff {t : Table κ α} {k : κ} {v : α} :
    (k, v) ∈ t.entries ↔ t.get? k = some v :=
  (find_eq_some_iff t.ordered).symm

theorem mem_values_iff {t : Table κ α} {v : α} : v ∈ t.values ↔ ∃ k, t.get? k = some v := by
  simp only [values, List.mem_map]
  constructor
  · rintro ⟨e, he, rfl⟩
    exact ⟨e.1, mem_entries_iff.1 he⟩
  · rintro ⟨k, hk⟩
    exact ⟨(k, v), mem_entries_iff.2 hk, rfl⟩

theorem mem_keys_iff {t : Table κ α} {k : κ} : k ∈ t.keys ↔ t.contains k = true := by
  simp only [keys, List.mem_map, contains, Option.isSome_iff_exists]
  constructor
  · rintro ⟨e, he, rfl⟩
    exact ⟨e.2, mem_entries_iff.1 he⟩
  · rintro ⟨v, hv⟩
    exact ⟨(k, v), mem_entries_iff.2 hv, rfl⟩

end Table

end FpgaHost
