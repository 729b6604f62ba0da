/-!
# Maps in insertion order

A map as the list of its entries in the order in which their keys came in.  Writing a present key
keeps its place; removing one keeps the order of the others.
-/

namespace ApiPlatform

/-- The entries of a map in insertion order. -/
structure OrderedMap (κ α : Type) where
  entries : List (κ × α) := []
  deriving DecidableEq

namespace OrderedMap

variable {κ α : Type} [DecidableEq κ]

def empty : OrderedMap κ α := ⟨[]⟩

def keys (m : OrderedMap κ α) : List κ := m.entries.map (·.1)

def values (m : OrderedMap κ α) : List α := m.entries.map (·.2)

def get? (m : OrderedMap κ α) (k : κ) : Option α := m.entries.lookup k

def contains (m : OrderedMap κ α) (k : κ) : Bool := (m.get? k).isSome

/-- Writes an entry over one of the same key, or else as a new last entry. -/
def insertIn (k : κ) (v : α) : List (κ × α) → List (κ × α)
  | [] => [(k, v)]
  | (k', v') :: rest => if k' = k then (k', v) :: rest else (k', v') :: insertIn k v rest

def insert (m : OrderedMap κ α) (k : κ) (v : α) : OrderedMap κ α := ⟨insertIn k v m.entries⟩

def erase (m : OrderedMap κ α) (k : κ) : OrderedMap κ α := ⟨m.entries.filter (·.1 ≠ k)⟩

def mapValues (f : α → α) (m : OrderedMap κ α) : OrderedMap κ α :=
  ⟨m.entries.map fun e => (e.1, f e.2)⟩

/-- Changes the value at a key, if there is one. -/
def modify (m : OrderedMap κ α) (k : κ) (f : α → α) : OrderedMap κ α :=
  ⟨m.entries.map fun e => if e.1 = k then (e.1, f e.2) else e⟩

omit [DecidableEq κ] in
theorem mem_values {m : OrderedMap κ α} {v : α} : v ∈ m.values ↔ ∃ k, (k, v) ∈ m.entries := by
  simp [values]

omit [DecidableEq κ] in
theorem mem_values_mapValues {m : OrderedMap κ α} {f : α → α} {v : α} :
    v ∈ (m.mapValues f).values ↔ ∃ u ∈ m.values, f u = v := by
  simp only [values, mapValues, List.map_map, List.mem_map, Function.comp_apply]
  constructor
  · rintro ⟨e, he, rfl⟩
    exact ⟨e.2, ⟨e, he, rfl⟩, rfl⟩
  · rintro ⟨u, ⟨e, he, rfl⟩, rfl⟩
    exact ⟨e, he, rfl⟩

theorem mem_insertIn_self (k : κ) (v : α) (es : List (κ × α)) : (k, v) ∈ insertIn k v es := by
  induction es with
  | nil => simp [insertIn]
  | cons e es ih =>
    simp only [insertIn]
    split
    · next h => simp [h]
    · exact List.mem_cons_of_mem _ ih

theorem mem_insertIn_of_ne {k : κ} {v : α} {e : κ × α} {es : List (κ × α)} (he : e ∈ es)
    (hk : e.1 ≠ k) : e ∈ insertIn k v es := by
  induction es with
  | nil => cases he
  | cons f es ih =>
    simp only [insertIn]
    rcases List.mem_cons.1 he with rfl | he
    · simp [hk]
    · split
      · exact List.mem_cons_of_mem _ he
      · exact List.mem_cons_of_mem _ (ih he)

theorem eq_or_mem_of_mem_insertIn {k : κ} {v : α} {e : κ × α} {es : List (κ × α)}
    (he : e ∈ insertIn k v es) : e = (k, v) ∨ e ∈ es := by
  induction es with
  | nil => exact .inl (by simpa [insertIn] using he)
  | cons f es ih =>
    simp only [insertIn] at he
    split at he
    · next h =>
      rcases List.mem_cons.1 he with rfl | he
      · exact .inl (by rw [h])
      · exact .inr (List.mem_cons_of_mem _ he)
    · rcases List.mem_cons.1 he with rfl | he
      · exact .inr List.mem_cons_self
      · exact (ih he).imp_right (List.mem_cons_of_mem _)

/-- A key that occurs has a value, which stands with it in the list. -/
theorem exists_get?_of_mem {m : OrderedMap κ α} {k : κ} {v : α} (h : (k, v) ∈ m.entries) :
    ∃ u, m.get? k = some u ∧ (k, u) ∈ m.entries := by
  obtain ⟨es⟩ := m
  simp only [get?] at h ⊢
  induction es with
  | nil => cases h
  | cons e es ih =>
    obtain ⟨k', v'⟩ := e
    by_cases hk : k = k'
    · exact ⟨v', by simp [hk], by simp [hk]⟩
    · have hrest : (k, v) ∈ es := by simpa [hk] using h
      obtain ⟨u, hget, hmem⟩ := ih hrest
      have hbeq : (k == k') = false := beq_eq_false_iff_ne.2 hk
      refine ⟨u, ?_, List.mem_cons_of_mem _ hmem⟩
      rw [List.lookup_cons, hbeq]
      exact hget

/-! ## Changes that do not get into each other's way -/

/-- Changes every value with a view to its key. -/
def mapEntries (f : κ → α → α) (m : OrderedMap κ α) : OrderedMap κ α :=
  ⟨m.entries.map fun e => (e.1, f e.1 e.2)⟩

omit [DecidableEq κ] in
theorem mapEntries_comm {f g : κ → α → α} (hcomm : ∀ k v, f k (g k v) = g k (f k v))
    (m : OrderedMap κ α) : (m.mapEntries g).mapEntries f = (m.mapEntries f).mapEntries g := by
  simp only [mapEntries, List.map_map, Function.comp_def, hcomm]

theorem modify_eq_mapEntries (m : OrderedMap κ α) (k : κ) (f : α → α) :
    m.modify k f = m.mapEntries fun k' v => if k' = k then f v else v := by
  refine congrArg mk (List.map_congr_left fun e _ => ?_)
  dsimp only
  split <;> rfl

theorem erase_comm (m : OrderedMap κ α) (k k' : κ) :
    (m.erase k).erase k' = (m.erase k').erase k := by
  simp only [erase, List.filter_filter, Bool.and_comm]

theorem erase_mapEntries (m : OrderedMap κ α) (k : κ) (f : κ → α → α) :
    (m.mapEntries f).erase k = (m.erase k).mapEntries f := by
  simp only [erase, mapEntries, List.filter_map, Function.comp_def]

theorem erase_modify (m : OrderedMap κ α) (k k' : κ) (f : α → α) :
    (m.modify k' f).erase k = (m.erase k).modify k' f := by
  rw [modify_eq_mapEntries, modify_eq_mapEntries, erase_mapEntries]

theorem erase_insert_of_ne {k k' : κ} (hne : k ≠ k') (v : α) (m : OrderedMap κ α) :
    (m.insert k v).erase k' = (m.erase k').insert k v := by
  obtain ⟨es⟩ := m
  simp only [insert, erase, mk.injEq]
  induction es with
  | nil => simp [insertIn, hne]
  | cons e es ih =>
      by_cases hk : e.1 = k
      · simp [insertIn, hk, hne]
      · by_cases hk' : e.1 = k'
        · rw [insertIn, if_neg hk, List.filter_cons_of_neg (by simpa using hk'),
            List.filter_cons_of_neg (by simpa using hk'), ih]
        · rw [insertIn, if_neg hk, List.filter_cons_of_pos (by simpa using hk'),
            List.filter_cons_of_pos (by simpa using hk'), insertIn, if_neg hk, ih]

theorem mapEntries_insert (f : κ → α → α) (k : κ) (v : α) (m : OrderedMap κ α) :
    (m.insert k v).mapEntries f = (m.mapEntries f).insert k (f k v) := by
  obtain ⟨es⟩ := m
  simp only [insert, mapEntries, mk.injEq]
  induction es with
  | nil => rfl
  | cons e es ih =>
      by_cases hk : e.1 = k
      · simp [insertIn, hk]
      · simp [insertIn, hk, ih]

theorem get?_mapEntries (f : κ → α → α) (k : κ) (m : OrderedMap κ α) :
    (m.mapEntries f).get? k = (m.get? k).map (f k) := by
  obtain ⟨es⟩ := m
  simp only [get?, mapEntries]
  induction es with
  | nil => rfl
  | cons e es ih =>
      obtain ⟨k', v⟩ := e
      by_cases hk : k = k'
      · simp [hk]
      · rw [List.map_cons, List.lookup_cons, List.lookup_cons, beq_eq_false_iff_ne.2 hk]
        exact ih

theorem get?_erase_of_ne {k k' : κ} (hne : k' ≠ k) (m : OrderedMap κ α) :
    (m.erase k).get? k' = m.get? k' := by
  obtain ⟨es⟩ := m
  simp only [get?, erase]
  induction es with
  | nil => rfl
  | cons e es ih =>
      obtain ⟨j, v⟩ := e
      by_cases hj : j = k
      · subst hj
        rw [List.filter_cons_of_neg (by simp), List.lookup_cons, beq_eq_false_iff_ne.2 hne]
        exact ih
      · rw [List.filter_cons_of_pos (by simpa using hj), List.lookup_cons, List.lookup_cons, ih]

theorem get?_insert_of_ne {k k' : κ} (hne : k' ≠ k) (v : α) (m : OrderedMap κ α) :
    (m.insert k v).get? k' = m.get? k' := by
  obtain ⟨es⟩ := m
  simp only [get?, insert]
  induction es with
  | nil => rw [insertIn, List.lookup_cons, beq_eq_false_iff_ne.2 hne]
  | cons e es ih =>
      obtain ⟨j, w⟩ := e
      by_cases hj : j = k
      · subst hj
        rw [insertIn, if_pos rfl, List.lookup_cons, List.lookup_cons, beq_eq_false_iff_ne.2 hne]
      · rw [insertIn, if_neg hj, List.lookup_cons, List.lookup_cons, ih]

end OrderedMap

end ApiPlatform
