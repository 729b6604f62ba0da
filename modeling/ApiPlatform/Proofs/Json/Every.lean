import ApiPlatform.Proofs.Json.Strings
/-!
# Properties of every key and string

The keys and strings of a tree as lists, and what it means for a written value that every one of
them has a property: for each way to write a value, that its parts have it.
-/

namespace ApiPlatform

namespace Json

mutual

/-- The keys of all objects in a tree. -/
def keys : Json → List String
  | .arr items => keysOfItems items
  | .obj entries => keysOfEntries entries
  | .null | .bool _ | .int _ | .double _ | .str _ => []

def keysOfItems : List Json → List String
  | [] => []
  | item :: items => keys item ++ keysOfItems items

def keysOfEntries : List (String × Json) → List String
  | [] => []
  | (key, value) :: entries => key :: keys value ++ keysOfEntries entries

end

mutual

/-- The strings of a tree that are no keys. -/
def strings : Json → List String
  | .str s => [s]
  | .arr items => stringsOfItems items
  | .obj entries => stringsOfEntries entries
  | .null | .bool _ | .int _ | .double _ => []

def stringsOfItems : List Json → List String
  | [] => []
  | item :: items => strings item ++ stringsOfItems items

def stringsOfEntries : List (String × Json) → List String
  | [] => []
  | (_, value) :: entries => strings value ++ stringsOfEntries entries

end

variable {K S T : String → Prop} {f : String → String}

/-- Every key of a tree has one property and every other string another one. -/
def Every (K S : String → Prop) (j : Json) : Prop := (∀ k ∈ j.keys, K k) ∧ ∀ s ∈ j.strings, S s

theorem keysOfItems_eq (items : List Json) : keysOfItems items = items.flatMap keys := by
  induction items with
  | nil => rfl
  | cons item items ih => rw [keysOfItems, ih, List.flatMap_cons]

theorem keysOfEntries_eq (entries : List (String × Json)) :
    keysOfEntries entries = entries.flatMap fun e => e.1 :: e.2.keys := by
  induction entries with
  | nil => rfl
  | cons e entries ih => rw [keysOfEntries, ih, List.flatMap_cons]

theorem stringsOfItems_eq (items : List Json) : stringsOfItems items = items.flatMap strings := by
  induction items with
  | nil => rfl
  | cons item items ih => rw [stringsOfItems, ih, List.flatMap_cons]

theorem stringsOfEntries_eq (entries : List (String × Json)) :
    stringsOfEntries entries = entries.flatMap fun e => e.2.strings := by
  induction entries with
  | nil => rfl
  | cons e entries ih => rw [stringsOfEntries, ih, List.flatMap_cons]

@[simp] theorem every_bool (b : Bool) : (Json.bool b).Every K S := by
  simp [Every, keys, strings]

@[simp] theorem every_int (n : Int) : (Json.int n).Every K S := by
  simp [Every, keys, strings]

@[simp] theorem every_str (s : String) : (Json.str s).Every K S ↔ S s := by
  simp [Every, keys, strings]

@[simp] theorem every_arr (items : List Json) :
    (Json.arr items).Every K S ↔ ∀ item ∈ items, item.Every K S := by
  simp only [Every, keys, strings, keysOfItems_eq, stringsOfItems_eq, List.forall_mem_flatMap,
    forall_and]

@[simp] theorem every_obj (entries : List (String × Json)) :
    (Json.obj entries).Every K S ↔ ∀ e ∈ entries, K e.1 ∧ e.2.Every K S := by
  simp only [Every, keys, strings, keysOfEntries_eq, stringsOfEntries_eq, List.forall_mem_flatMap,
    List.forall_mem_cons, forall_and, and_assoc]

theorem Every.mono {K' : String → Prop} {j : Json} (h : j.Every K S) (hK : ∀ k, K k → K' k)
    (hS : ∀ s, S s → T s) : j.Every K' T :=
  ⟨fun k hk => hK k (h.1 k hk), fun s hs => hS s (h.2 s hs)⟩

theorem SameEntries.every {j j' : Json} (h : j.SameEntries j') (hj : j'.Every K S) :
    j.Every K S := by
  obtain ⟨entries, entries', rfl, rfl, hperm⟩ := h
  rw [every_obj] at hj ⊢
  exact fun e he => hj e (hperm.mem_iff.1 he)

mutual

theorem keys_mapStrings (f : String → String) : ∀ j : Json, (j.mapStrings f).keys = j.keys
  | .null => rfl
  | .bool _ => rfl
  | .int _ => rfl
  | .double _ => rfl
  | .str _ => rfl
  | .arr items => keysOfItems_mapStrings f items
  | .obj entries => keysOfEntries_mapStrings f entries

theorem keysOfItems_mapStrings (f : String → String) : ∀ items : List Json,
    keysOfItems (mapStringsInItems f items) = keysOfItems items
  | [] => rfl
  | item :: items => by
      rw [mapStringsInItems, keysOfItems, keysOfItems, keys_mapStrings f item,
        keysOfItems_mapStrings f items]

theorem keysOfEntries_mapStrings (f : String → String) : ∀ entries : List (String × Json),
    keysOfEntries (mapStringsInEntries f entries) = keysOfEntries entries
  | [] => rfl
  | (key, value) :: entries => by
      rw [mapStringsInEntries, keysOfEntries, keysOfEntries, keys_mapStrings f value,
        keysOfEntries_mapStrings f entries]

end

mutual

theorem strings_mapStrings (f : String → String) :
    ∀ j : Json, (j.mapStrings f).strings = j.strings.map f
  | .null => rfl
  | .bool _ => rfl
  | .int _ => rfl
  | .double _ => rfl
  | .str _ => rfl
  | .arr items => stringsOfItems_mapStrings f items
  | .obj entries => stringsOfEntries_mapStrings f entries

theorem stringsOfItems_mapStrings (f : String → String) : ∀ items : List Json,
    stringsOfItems (mapStringsInItems f items) = (stringsOfItems items).map f
  | [] => rfl
  | item :: items => by
      rw [mapStringsInItems, stringsOfItems, stringsOfItems, strings_mapStrings f item,
        stringsOfItems_mapStrings f items, List.map_append]

theorem stringsOfEntries_mapStrings (f : String → String) : ∀ entries : List (String × Json),
    stringsOfEntries (mapStringsInEntries f entries) = (stringsOfEntries entries).map f
  | [] => rfl
  | (key, value) :: entries => by
      rw [mapStringsInEntries, stringsOfEntries, stringsOfEntries, strings_mapStrings f value,
        stringsOfEntries_mapStrings f entries, List.map_append]

end

mutual

theorem mapStrings_congr {f g : String → String} :
    ∀ j : Json, (∀ s ∈ j.strings, f s = g s) → j.mapStrings f = j.mapStrings g
  | .null, _ => rfl
  | .bool _, _ => rfl
  | .int _, _ => rfl
  | .double _, _ => rfl
  | .str s, h => congrArg Json.str (h s (List.mem_singleton_self s))
  | .arr items, h => congrArg Json.arr (mapStringsInItems_congr items h)
  | .obj entries, h => congrArg Json.obj (mapStringsInEntries_congr entries h)

theorem mapStringsInItems_congr {f g : String → String} : ∀ items : List Json,
    (∀ s ∈ stringsOfItems items, f s = g s) → mapStringsInItems f items = mapStringsInItems g items
  | [], _ => rfl
  | item :: items, h => by
      obtain ⟨hitem, hitems⟩ := List.forall_mem_append.1 h
      rw [mapStringsInItems, mapStringsInItems, mapStrings_congr item hitem,
        mapStringsInItems_congr items hitems]

theorem mapStringsInEntries_congr {f g : String → String} : ∀ entries : List (String × Json),
    (∀ s ∈ stringsOfEntries entries, f s = g s) →
      mapStringsInEntries f entries = mapStringsInEntries g entries
  | [], _ => rfl
  | (key, value) :: entries, h => by
      obtain ⟨hvalue, hentries⟩ := List.forall_mem_append.1 h
      rw [mapStringsInEntries, mapStringsInEntries, mapStrings_congr value hvalue,
        mapStringsInEntries_congr entries hentries]

end

/-- Two changes of strings give the same tree exactly if they agree on its strings. -/
theorem mapStrings_eq_iff {f g : String → String} {j : Json} :
    j.mapStrings f = j.mapStrings g ↔ ∀ s ∈ j.strings, f s = g s := by
  refine ⟨fun h => ?_, mapStrings_congr j⟩
  have hstrings := congrArg strings h
  rw [strings_mapStrings, strings_mapStrings] at hstrings
  exact List.map_inj_left.1 hstrings

theorem SameEntries.mem_strings {j j' : Json} (h : j.SameEntries j') (s : String) :
    s ∈ j.strings ↔ s ∈ j'.strings := by
  obtain ⟨entries, entries', rfl, rfl, hperm⟩ := h
  simp only [strings, stringsOfEntries_eq, List.mem_flatMap, hperm.mem_iff]

theorem Every.mapStrings {j : Json} (h : j.Every K S) (hf : ∀ s, S s → T (f s)) :
    (j.mapStrings f).Every K T := by
  rw [Every, keys_mapStrings, strings_mapStrings]
  refine ⟨h.1, fun t ht => ?_⟩
  obtain ⟨s, hs, rfl⟩ := List.mem_map.1 ht
  exact hf s (h.2 s hs)

end Json

/-! ## Written values -/

/-- Every key of a written value has one property and every other string another one. -/
def Codec.Every {α : Type} (c : Codec α) (K S : String → Prop) (a : α) : Prop :=
  (c.encode a).Every K S

def Fields.Every {α : Type} (f : Fields α) (K S : String → Prop) (a : α) : Prop :=
  ∀ e ∈ f.encode a, K e.1 ∧ e.2.Every K S

namespace Codec

variable {α β : Type} {K S : String → Prop} {c : Codec α}

@[simp] theorem every_string (s : String) : string.Every K S s ↔ S s := Json.every_str s

@[simp] theorem every_bool (b : Bool) : bool.Every K S b := Json.every_bool b

@[simp] theorem every_int32 (n : Int32) : int32.Every K S n := Json.every_int _

@[simp] theorem every_list (as : List α) :
    (list c).Every K S as ↔ ∀ a ∈ as, c.Every K S a := by
  simp [Every, list]

@[simp] theorem every_map (m : SortedMap String α) :
    (map c).Every K S m ↔ ∀ e ∈ m.entries, K e.1 ∧ c.Every K S e.2 := by
  simp only [Every, map, Json.every_obj, List.forall_mem_map]

end Codec

namespace Fields

variable {α β : Type} {K S : String → Prop} {c : Codec α} {f : Fields α} {g : Fields β}

@[simp] theorem every_optional (key : String) (a : Option α) :
    (optional key c).Every K S a ↔ ∀ b ∈ a, K key ∧ c.Every K S b := by
  cases a <;> simp [Every, optional, Codec.Every]

@[simp] theorem every_defaulted (key : String) (fallback a : α) :
    (defaulted key c fallback).Every K S a ↔ K key ∧ c.Every K S a := by
  simp [Every, defaulted, Codec.Every]

@[simp] theorem every_required (key : String) (a : α) :
    (required key c).Every K S a ↔ K key ∧ c.Every K S a := by
  simp [Every, required, Codec.Every]

@[simp] theorem every_absentAs (key : String) (fallback a : α) :
    (absentAs key c fallback).Every K S a ↔ K key ∧ c.Every K S a := by
  simp [Every, absentAs, Codec.Every]

@[simp] theorem every_omittedAs [DecidableEq α] (key : String) (fallback a : α) :
    (omittedAs key c fallback).Every K S a ↔ a ≠ fallback → K key ∧ c.Every K S a := by
  by_cases h : a = fallback <;> simp [Every, omittedAs, Codec.Every, h]

@[simp] theorem every_constant (key text : String) (u : Unit) :
    (constant key text).Every K S u ↔ K key ∧ S text := by
  simp [Every, constant]

@[simp] theorem every_and (disjoint : ∀ k ∈ f.keys, k ∉ g.keys) (p : α × β) :
    (f.and g disjoint).Every K S p ↔ f.Every K S p.1 ∧ g.Every K S p.2 := by
  simp only [Every, and, List.forall_mem_append]

@[simp] theorem every_iso {pack : α → β} {unpack : β → α}
    (pack_unpack : ∀ b, pack (unpack b) = b) (b : β) :
    (f.iso pack unpack pack_unpack).Every K S b ↔ f.Every K S (unpack b) :=
  Iff.rfl

@[simp] theorem every_codec (a : α) : f.codec.Every K S a ↔ f.Every K S a :=
  Json.every_obj _

@[simp] theorem every_recordCodec (a : α) : f.recordCodec.Every K S a ↔ f.Every K S a :=
  Json.every_obj _

end Fields

end ApiPlatform
