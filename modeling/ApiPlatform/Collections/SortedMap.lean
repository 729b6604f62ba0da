/-!
# Maps in key order

A finite map kept as the list of its entries in strictly increasing key order.  Two maps with the
same look-ups are therefore the same value (`SortedMap.ext_get?`), and listing one always gives
its keys in order.
-/

namespace ApiPlatform

/-- A finite map from `κ` to `α`, listed in strictly increasing key order. -/
structure SortedMap (κ α : Type) [Ord κ] where
  /-- The entries, smallest key first. -/
  entries : List (κ × α)
  /-- No key is listed twice, and the keys increase. -/
  sorted : entries.Pairwise (fun a b => compare a.1 b.1 = .lt)

namespace SortedMap

variable {κ α β : Type} [Ord κ]

instance [DecidableEq κ] [DecidableEq α] : DecidableEq (SortedMap κ α) := fun a b =>
  if h : a.entries = b.entries then
    .isTrue (by cases a; cases b; cases h; rfl)
  else
    .isFalse (fun e => h (e ▸ rfl))

def empty : SortedMap κ α := ⟨[], .nil⟩

instance : Inhabited (SortedMap κ α) := ⟨empty⟩

def isEmpty (m : SortedMap κ α) : Bool := m.entries.isEmpty

def size (m : SortedMap κ α) : Nat := m.entries.length

def keys (m : SortedMap κ α) : List κ := m.entries.map (·.1)

/-- The value of the first entry whose key compares equal. -/
def lookupIn (k : κ) : List (κ × α) → Option α
  | [] => none
  | (k', v) :: rest => if compare k k' = .eq then some v else lookupIn k rest

def get? (m : SortedMap κ α) (k : κ) : Option α := lookupIn k m.entries

def contains (m : SortedMap κ α) (k : κ) : Bool := (m.get? k).isSome

/-- Puts an entry at its place in an ordered list, over an entry of the same key. -/
def insertIn (k : κ) (v : α) : List (κ × α) → List (κ × α)
  | [] => [(k, v)]
  | (k', v') :: rest =>
    match compare k k' with
    | .lt => (k, v) :: (k', v') :: rest
    | .eq => (k, v) :: rest
    | .gt => (k', v') :: insertIn k v rest

theorem forall_mem_insertIn {p : κ → Prop} {k : κ} {v : α} {es : List (κ × α)} (hk : p k)
    (h : ∀ e ∈ es, p e.1) : ∀ e ∈ insertIn k v es, p e.1 := by
  induction es with
  | nil => simpa [insertIn] using hk
  | cons e es ih =>
    have hes : ∀ e ∈ es, p e.1 := fun x hx => h x (List.mem_cons_of_mem _ hx)
    have he : p e.1 := h e List.mem_cons_self
    intro x hx
    simp only [insertIn] at hx
    split at hx <;> simp only [List.mem_cons] at hx
    · rcases hx with rfl | rfl | hx
      · exact hk
      · exact he
      · exact hes x hx
    · rcases hx with rfl | hx
      · exact hk
      · exact hes x hx
    · rcases hx with rfl | hx
      · exact he
      · exact ih hes x hx

theorem pairwise_insertIn [Std.TransOrd κ] {k : κ} {v : α} {es : List (κ × α)}
    (h : es.Pairwise (fun a b => compare a.1 b.1 = .lt)) :
    (insertIn k v es).Pairwise (fun a b => compare a.1 b.1 = .lt) := by
  induction es with
  | nil => simp [insertIn]
  | cons e es ih =>
    obtain ⟨hhead, htail⟩ := List.pairwise_cons.1 h
    simp only [insertIn]
    split
    · next hlt =>
      refine List.pairwise_cons.2 ⟨?_, h⟩
      intro x hx
      rcases List.mem_cons.1 hx with rfl | hx
      · exact hlt
      · exact Std.TransCmp.lt_trans hlt (hhead x hx)
    · next heq =>
      refine List.pairwise_cons.2 ⟨?_, htail⟩
      intro x hx
      exact Std.TransCmp.lt_of_eq_of_lt heq (hhead x hx)
    · next hgt =>
      refine List.pairwise_cons.2 ⟨?_, ih htail⟩
      exact forall_mem_insertIn (p := fun x => compare e.1 x = .lt)
        (Std.OrientedCmp.gt_iff_lt.1 hgt) hhead

theorem lookupIn_insertIn [Std.LawfulEqOrd κ] [DecidableEq κ] {k k' : κ} {v : α}
    {es : List (κ × α)} :
    lookupIn k' (insertIn k v es) = if k' = k then some v else lookupIn k' es := by
  induction es with
  | nil => simp [insertIn, lookupIn, Std.LawfulEqCmp.compare_eq_iff_eq]
  | cons e es ih =>
    simp only [insertIn]
    split
    · simp [lookupIn, Std.LawfulEqCmp.compare_eq_iff_eq]
    · next heq =>
      have hk := Std.LawfulEqCmp.eq_of_compare heq
      simp only [lookupIn, Std.LawfulEqCmp.compare_eq_iff_eq]
      by_cases h : k' = k <;> simp [h, ← hk]
    · next hgt =>
      have hne : e.1 ≠ k := by
        rintro rfl
        simp [Std.ReflCmp.compare_self] at hgt
      simp only [lookupIn, Std.LawfulEqCmp.compare_eq_iff_eq, ih]
      by_cases h : k' = e.1
      · simp [h, hne]
      · simp [h]

/-- The map with `v` at `k`, whatever was there before. -/
def insert [Std.TransOrd κ] (m : SortedMap κ α) (k : κ) (v : α) : SortedMap κ α :=
  ⟨insertIn k v m.entries, pairwise_insertIn m.sorted⟩

/-- The same keys with every value changed by `f`. -/
def mapValues (f : α → β) (m : SortedMap κ α) : SortedMap κ β :=
  ⟨m.entries.map (fun e => (e.1, f e.2)),
    List.pairwise_map.2 m.sorted⟩

/-- Inserts entries from left to right, so a later entry of a key wins. -/
def insertMany [Std.TransOrd κ] (m : SortedMap κ α) (es : List (κ × α)) : SortedMap κ α :=
  es.foldl (fun m e => m.insert e.1 e.2) m

/-- The map of a list of entries; a later entry of a key wins. -/
def ofList [Std.TransOrd κ] (es : List (κ × α)) : SortedMap κ α := empty.insertMany es

/-- The entries of `n` laid over those of `m`. -/
def union [Std.TransOrd κ] (m n : SortedMap κ α) : SortedMap κ α := m.insertMany n.entries

@[simp] theorem get?_empty (k : κ) : (empty : SortedMap κ α).get? k = none := rfl

@[simp] theorem get?_insert [Std.TransOrd κ] [Std.LawfulEqOrd κ] [DecidableEq κ]
    (m : SortedMap κ α) (k k' : κ) (v : α) :
    (m.insert k v).get? k' = if k' = k then some v else m.get? k' :=
  lookupIn_insertIn

theorem insertIn_append_of_lt [Std.OrientedOrd κ] {k : κ} {v : α} {es : List (κ × α)}
    (h : ∀ e ∈ es, compare e.1 k = .lt) : insertIn k v es = es ++ [(k, v)] := by
  induction es with
  | nil => rfl
  | cons e es ih =>
    have hgt : compare k e.1 = .gt := Std.OrientedCmp.gt_iff_lt.2 (h e List.mem_cons_self)
    simp [insertIn, hgt, ih (fun x hx => h x (List.mem_cons_of_mem _ hx))]

theorem entries_insertMany_of_lt [Std.TransOrd κ] {m : SortedMap κ α} {es : List (κ × α)}
    (h : (m.entries ++ es).Pairwise (fun a b => compare a.1 b.1 = .lt)) :
    (m.insertMany es).entries = m.entries ++ es := by
  induction es generalizing m with
  | nil => simp [insertMany]
  | cons e es ih =>
    have hlt : ∀ x ∈ m.entries, compare x.1 e.1 = .lt := fun x hx =>
      (List.pairwise_append.1 h).2.2 x hx e List.mem_cons_self
    have hins : (m.insert e.1 e.2).entries = m.entries ++ [e] := insertIn_append_of_lt hlt
    have := ih (m := m.insert e.1 e.2) (by simpa [hins] using h)
    simpa [insertMany, hins] using this

/-- Listing a map and reading the list gives the map back. -/
theorem ofList_entries [Std.TransOrd κ] (m : SortedMap κ α) : ofList m.entries = m := by
  have h : (ofList m.entries).entries = m.entries := by
    have sorted : ((empty : SortedMap κ α).entries ++ m.entries).Pairwise
        (fun a b => compare a.1 b.1 = .lt) := by simpa [empty] using m.sorted
    simpa [ofList, empty] using entries_insertMany_of_lt sorted
  cases hm : ofList m.entries
  cases m
  simp_all

theorem lookupIn_eq_some_iff [Std.LawfulEqOrd κ] {k : κ} {v : α} {es : List (κ × α)}
    (h : es.Pairwise (fun a b => compare a.1 b.1 = .lt)) :
    lookupIn k es = some v ↔ (k, v) ∈ es := by
  induction es with
  | nil => simp [lookupIn]
  | cons e es ih =>
    obtain ⟨hhead, htail⟩ := List.pairwise_cons.1 h
    obtain ⟨k', v'⟩ := e
    simp only [lookupIn, Std.LawfulEqCmp.compare_eq_iff_eq, List.mem_cons, Prod.mk.injEq]
    by_cases hk : k = k'
    · subst hk
      have : (k, v) ∉ es := fun hm => by
        simpa [Std.ReflCmp.compare_self] using hhead _ hm
      simp [this, eq_comm]
    · simp [hk, ih htail]

/-- The keys increase, so a key that stands in front occurs nowhere behind. -/
theorem lookupIn_eq_none_of_lt {k : κ} {es : List (κ × α)}
    (h : ∀ e ∈ es, compare k e.1 = .lt) : lookupIn k es = none := by
  induction es with
  | nil => rfl
  | cons e es ih =>
    obtain ⟨hfirst, hrest⟩ := List.forall_mem_cons.1 h
    simp [lookupIn, hfirst, ih hrest]

theorem lookupIn_map (f : α → β) (k : κ) (es : List (κ × α)) :
    lookupIn k (es.map fun e => (e.1, f e.2)) = (lookupIn k es).map f := by
  induction es with
  | nil => rfl
  | cons e es ih =>
    simp only [List.map_cons, lookupIn, ih]
    split <;> rfl

@[simp] theorem get?_mapValues (f : α → β) (m : SortedMap κ α) (k : κ) :
    (m.mapValues f).get? k = (m.get? k).map f :=
  lookupIn_map f k m.entries

theorem get?_insertMany_of_pairwise [Std.TransOrd κ] [Std.LawfulEqOrd κ] [DecidableEq κ]
    {m : SortedMap κ α} {k : κ} {es : List (κ × α)}
    (h : es.Pairwise (fun a b => compare a.1 b.1 = .lt)) :
    (m.insertMany es).get? k = (lookupIn k es).or (m.get? k) := by
  induction es generalizing m with
  | nil => rfl
  | cons e es ih =>
    obtain ⟨hhead, htail⟩ := List.pairwise_cons.1 h
    have hcons : (m.insertMany (e :: es)).get? k =
        (lookupIn k es).or ((m.insert e.1 e.2).get? k) := ih htail
    rw [hcons, get?_insert]
    simp only [lookupIn, Std.LawfulEqCmp.compare_eq_iff_eq]
    by_cases hk : k = e.1
    · have hnone : lookupIn k es = none := lookupIn_eq_none_of_lt fun x hx => hk ▸ hhead x hx
      rw [hnone, if_pos hk, if_pos hk]
      rfl
    · simp [hk]

/-- Entries laid over a map win. -/
@[simp] theorem get?_union [Std.TransOrd κ] [Std.LawfulEqOrd κ] [DecidableEq κ]
    (m n : SortedMap κ α) (k : κ) : (m.union n).get? k = (n.get? k).or (m.get? k) :=
  get?_insertMany_of_pairwise n.sorted

theorem map_insertIn (f : α → β) (k : κ) (v : α) (es : List (κ × α)) :
    (insertIn k v es).map (fun e => (e.1, f e.2)) =
      insertIn k (f v) (es.map fun e => (e.1, f e.2)) := by
  induction es with
  | nil => rfl
  | cons e es ih =>
    simp only [insertIn, List.map_cons]
    split <;> simp [ih]

@[simp] theorem keys_mapValues (f : α → β) (m : SortedMap κ α) : (m.mapValues f).keys = m.keys := by
  simp [keys, mapValues]

theorem mapValues_insertMany [Std.TransOrd κ] (f : α → β) (m : SortedMap κ α)
    (es : List (κ × α)) :
    (m.insertMany es).mapValues f = (m.mapValues f).insertMany (es.map fun e => (e.1, f e.2)) := by
  induction es generalizing m with
  | nil => rfl
  | cons e es ih =>
    have hinsert : (m.insert e.1 e.2).mapValues f = (m.mapValues f).insert e.1 (f e.2) := by
      simp only [mapValues, insert, map_insertIn]
    have hcons := ih (m.insert e.1 e.2)
    rw [hinsert] at hcons
    exact hcons

/-- The keys of a map do not depend on its values. -/
theorem keys_ofList [Std.TransOrd κ] (es : List (κ × α)) :
    (ofList es).keys = (ofList (es.map fun e => (e.1, ()))).keys := by
  have h := mapValues_insertMany (fun _ => ()) empty es
  rw [← keys_mapValues (fun _ => ())]
  exact congrArg keys h

theorem mem_keys_iff [Std.LawfulEqOrd κ] {m : SortedMap κ α} {k : κ} :
    k ∈ m.keys ↔ ∃ v, m.get? k = some v := by
  simp only [keys, List.mem_map, get?, lookupIn_eq_some_iff m.sorted]
  exact ⟨fun ⟨⟨_, v⟩, h, rfl⟩ => ⟨v, h⟩, fun ⟨v, h⟩ => ⟨(k, v), h, rfl⟩⟩

theorem contains_iff_mem_keys [Std.LawfulEqOrd κ] {m : SortedMap κ α} {k : κ} :
    m.contains k ↔ k ∈ m.keys := by
  rw [mem_keys_iff, contains, Option.isSome_iff_exists]

/-- What an insertion leaves in a list is the new entry or an old one. -/
theorem eq_or_mem_of_mem_insertIn {k : κ} {v : α} {e : κ × α} {es : List (κ × α)}
    (h : e ∈ insertIn k v es) : e = (k, v) ∨ e ∈ es := by
  induction es with
  | nil => exact .inl (List.mem_singleton.1 h)
  | cons e' es ih =>
    unfold insertIn at h
    split at h
    · exact List.mem_cons.1 h
    · exact (List.mem_cons.1 h).imp_right (List.mem_cons_of_mem _)
    · rcases List.mem_cons.1 h with rfl | h
      · exact .inr List.mem_cons_self
      · exact (ih h).imp_right (List.mem_cons_of_mem _)

theorem mem_of_mem_insertMany [Std.TransOrd κ] {m : SortedMap κ α} {es : List (κ × α)} {e : κ × α}
    (h : e ∈ (m.insertMany es).entries) : e ∈ es ∨ e ∈ m.entries := by
  induction es generalizing m with
  | nil => exact .inr h
  | cons e' es ih =>
    rcases ih h with h | h
    · exact .inl (List.mem_cons_of_mem _ h)
    · refine (eq_or_mem_of_mem_insertIn h).imp_left fun heq => ?_
      rw [heq]
      exact List.mem_cons_self

theorem mem_of_mem_ofList [Std.TransOrd κ] {es : List (κ × α)} {e : κ × α}
    (h : e ∈ (ofList es).entries) : e ∈ es :=
  (mem_of_mem_insertMany h).resolve_right List.not_mem_nil

/-- A value that is found was listed. -/
theorem mem_of_get?_ofList [Std.TransOrd κ] [Std.LawfulEqOrd κ] {es : List (κ × α)} {k : κ} {v : α}
    (h : (ofList es).get? k = some v) : (k, v) ∈ es :=
  mem_of_mem_ofList ((lookupIn_eq_some_iff (ofList es).sorted).1 h)

section Keys

variable [Std.TransOrd κ] [Std.LawfulEqOrd κ] [DecidableEq κ]

theorem mem_keys_insert {m : SortedMap κ α} {k k' : κ} {v : α} :
    k' ∈ (m.insert k v).keys ↔ k' = k ∨ k' ∈ m.keys := by
  simp only [mem_keys_iff, get?_insert]
  by_cases h : k' = k <;> simp [h]

theorem mem_keys_insertMany {m : SortedMap κ α} {k : κ} {es : List (κ × α)} :
    k ∈ (m.insertMany es).keys ↔ k ∈ m.keys ∨ k ∈ es.map (·.1) := by
  induction es generalizing m with
  | nil => simp [insertMany]
  | cons e es ih =>
    have hcons : k ∈ (m.insertMany (e :: es)).keys ↔
        k ∈ (m.insert e.1 e.2).keys ∨ k ∈ es.map (·.1) := ih
    rw [hcons, mem_keys_insert, List.map_cons, List.mem_cons, or_assoc, or_left_comm]

theorem mem_keys_ofList {k : κ} {es : List (κ × α)} :
    k ∈ (ofList es).keys ↔ k ∈ es.map (·.1) :=
  mem_keys_insertMany.trans (or_iff_right List.not_mem_nil)

/-- The last entry of a key counts. -/
theorem get?_ofList_of_notMem {before after : List (κ × α)} {k : κ} {v : α}
    (hk : k ∉ after.map (·.1)) : (ofList (before ++ (k, v) :: after)).get? k = some v := by
  have hlater : ∀ (m : SortedMap κ α) (es : List (κ × α)), k ∉ es.map (·.1) →
      (m.insertMany es).get? k = m.get? k := by
    intro m es hes
    induction es generalizing m with
    | nil => rfl
    | cons e es ih =>
      rw [List.map_cons, List.mem_cons, not_or] at hes
      obtain ⟨hne, hrest⟩ := hes
      have hcons := ih (m.insert e.1 e.2) hrest
      rwa [get?_insert, if_neg hne] at hcons
  have hsplit : ofList (before ++ (k, v) :: after) =
      ((ofList before).insert k v).insertMany after := by
    simp only [ofList, insertMany, List.foldl_append, List.foldl_cons]
  rw [hsplit, hlater _ _ hk, get?_insert, if_pos rfl]

theorem mem_keys_union {m n : SortedMap κ α} {k : κ} :
    k ∈ (m.union n).keys ↔ k ∈ m.keys ∨ k ∈ n.keys :=
  mem_keys_insertMany

end Keys

/-- Two maps with the same look-ups are equal. -/
theorem ext_get? [Std.TransOrd κ] [Std.LawfulEqOrd κ] {m n : SortedMap κ α}
    (h : ∀ k, m.get? k = n.get? k) :
    m = n := by
  obtain ⟨es, hes⟩ := m
  obtain ⟨fs, hfs⟩ := n
  have hmem : ∀ e, e ∈ es ↔ e ∈ fs := fun e => by
    rw [← lookupIn_eq_some_iff hes, ← lookupIn_eq_some_iff hfs]
    exact (congrArg (· = some e.2) (h e.1)).to_iff
  suffices es = fs by subst this; rfl
  clear h
  induction es generalizing fs with
  | nil =>
    cases fs with
    | nil => rfl
    | cons f fs => exact absurd ((hmem f).2 List.mem_cons_self) (by simp)
  | cons e es ih =>
    cases fs with
    | nil => exact absurd ((hmem e).1 List.mem_cons_self) (by simp)
    | cons f fs =>
      obtain ⟨hehead, hetail⟩ := List.pairwise_cons.1 hes
      obtain ⟨hfhead, hftail⟩ := List.pairwise_cons.1 hfs
      have hef : e = f := by
        rcases List.mem_cons.1 ((hmem e).1 List.mem_cons_self) with h | h
        · exact h
        · rcases List.mem_cons.1 ((hmem f).2 List.mem_cons_self) with h' | h'
          · exact h'.symm
          · have h₁ := hehead f h'
            have h₂ := hfhead e h
            have := Std.TransCmp.lt_trans h₁ h₂
            simp [Std.ReflCmp.compare_self] at this
      subst hef
      have : es = fs := ih hetail fs hftail (fun x => by
        constructor
        · intro hx
          rcases List.mem_cons.1 ((hmem x).1 (List.mem_cons_of_mem _ hx)) with rfl | h
          · simpa [Std.ReflCmp.compare_self] using hehead x hx
          · exact h
        · intro hx
          rcases List.mem_cons.1 ((hmem x).2 (List.mem_cons_of_mem _ hx)) with rfl | h
          · simpa [Std.ReflCmp.compare_self] using hfhead x hx
          · exact h)
      rw [this]

end SortedMap

end ApiPlatform
