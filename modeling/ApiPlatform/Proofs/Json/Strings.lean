import ApiPlatform.Json.Codec
import Mathlib.Data.List.Forall2
/-!
# Changed strings

A tree with other strings in the same places, and the codecs that read such a tree again: those
whose texts are free.
-/

namespace ApiPlatform

namespace Json

/-- The second tree is the first one with each string changed as `R` says, and nothing else. -/
inductive StringsChanged (R : String → String → Prop) : Json → Json → Prop where
  | null : StringsChanged R .null .null
  | bool (b : Bool) : StringsChanged R (.bool b) (.bool b)
  | int (n : Int) : StringsChanged R (.int n) (.int n)
  | double (bits : UInt64) : StringsChanged R (.double bits) (.double bits)
  | str {s t : String} (h : R s t) : StringsChanged R (.str s) (.str t)
  | arr {items items' : List Json} (h : List.Forall₂ (StringsChanged R) items items') :
    StringsChanged R (.arr items) (.arr items')
  | obj {entries entries' : List (String × Json)} (hkeys : entries'.map (·.1) = entries.map (·.1))
    (h : List.Forall₂ (StringsChanged R) (entries.map (·.2)) (entries'.map (·.2))) :
    StringsChanged R (.obj entries) (.obj entries')

/-- Two objects with the same entries, whatever their order. -/
def SameEntries (j j' : Json) : Prop :=
  ∃ entries entries', j = .obj entries ∧ j' = .obj entries' ∧ entries.Perm entries'

variable {R : String → String → Prop} {f : String → String}

theorem mapStringsInItems_eq (f : String → String) (items : List Json) :
    mapStringsInItems f items = items.map (mapStrings f) := by
  induction items with
  | nil => rfl
  | cons item items ih => rw [mapStringsInItems, ih, List.map_cons]

theorem mapStringsInEntries_eq (f : String → String) (entries : List (String × Json)) :
    mapStringsInEntries f entries = entries.map fun e => (e.1, e.2.mapStrings f) := by
  induction entries with
  | nil => rfl
  | cons e entries ih => rw [mapStringsInEntries, ih, List.map_cons]

mutual

theorem stringsChanged_mapStrings (hR : ∀ s, R s (f s)) : ∀ j, StringsChanged R j (j.mapStrings f)
  | .null => .null
  | .bool b => .bool b
  | .int n => .int n
  | .double bits => .double bits
  | .str s => .str (hR s)
  | .arr items => .arr (forall₂_mapStringsInItems hR items)
  | .obj entries => by
      refine .obj ?_ (forall₂_mapStringsInEntries hR entries)
      rw [mapStringsInEntries_eq, List.map_map]
      rfl

theorem forall₂_mapStringsInItems (hR : ∀ s, R s (f s)) : ∀ items,
    List.Forall₂ (StringsChanged R) items (mapStringsInItems f items)
  | [] => .nil
  | item :: items =>
    .cons (stringsChanged_mapStrings hR item) (forall₂_mapStringsInItems hR items)

theorem forall₂_mapStringsInEntries (hR : ∀ s, R s (f s)) : ∀ entries : List (String × Json),
    List.Forall₂ (StringsChanged R) (entries.map (·.2))
      ((mapStringsInEntries f entries).map (·.2))
  | [] => .nil
  | (_, value) :: entries =>
    .cons (stringsChanged_mapStrings hR value) (forall₂_mapStringsInEntries hR entries)

end

mutual

theorem StringsChanged.eq_mapStrings (hR : ∀ s t, R s t → t = f s) :
    ∀ j j', StringsChanged R j j' → j' = j.mapStrings f
  | .null, _, .null => rfl
  | .bool _, _, .bool _ => rfl
  | .int _, _, .int _ => rfl
  | .double _, _, .double _ => rfl
  | .str s, _, .str h => congrArg Json.str (hR s _ h)
  | .arr items, _, .arr h => congrArg Json.arr (eq_mapStringsInItems hR items _ h)
  | .obj entries, _, .obj hkeys h =>
    congrArg Json.obj (eq_mapStringsInEntries hR entries _ hkeys h)

theorem eq_mapStringsInItems (hR : ∀ s t, R s t → t = f s) : ∀ items items',
    List.Forall₂ (StringsChanged R) items items' → items' = mapStringsInItems f items
  | [], _, .nil => rfl
  | item :: items, _, .cons h hrest => by
      rw [mapStringsInItems, ← StringsChanged.eq_mapStrings hR item _ h,
        ← eq_mapStringsInItems hR items _ hrest]

theorem eq_mapStringsInEntries (hR : ∀ s t, R s t → t = f s) :
    ∀ entries entries' : List (String × Json), entries'.map (·.1) = entries.map (·.1) →
    List.Forall₂ (StringsChanged R) (entries.map (·.2)) (entries'.map (·.2)) →
    entries' = mapStringsInEntries f entries
  | [], [], _, _ => rfl
  | [], _ :: _, hkeys, _ => by cases hkeys
  | _ :: _, [], hkeys, _ => by cases hkeys
  | (key, value) :: entries, (key', value') :: entries', hkeys, .cons h hrest => by
      obtain ⟨hkey, hkeys⟩ := List.cons.inj hkeys
      rw [mapStringsInEntries, ← StringsChanged.eq_mapStrings hR value _ h,
        ← eq_mapStringsInEntries hR entries entries' hkeys hrest]
      exact congrArg (fun k => (k, value') :: entries') hkey

end

/-- If `R` is a function, only one tree has its strings changed by it. -/
theorem stringsChanged_iff (hR : ∀ s t, R s t ↔ t = f s) {j j' : Json} :
    StringsChanged R j j' ↔ j' = j.mapStrings f := by
  constructor
  · exact StringsChanged.eq_mapStrings (fun s t => (hR s t).1) j j'
  · rintro rfl
    exact stringsChanged_mapStrings (fun s => (hR s (f s)).2 rfl) j

end Json

/-! ## Codecs of free text -/

/-- Other texts in what was written are read as another value. -/
def Codec.Textual {α : Type} (c : Codec α) : Prop :=
  ∀ (f : String → String) (a : α), ∃ a', (c.encode a).mapStrings f = c.encode a'

def Fields.Textual {α : Type} (c : Fields α) : Prop :=
  ∀ (f : String → String) (a : α), ∃ a', Json.mapStringsInEntries f (c.encode a) = c.encode a'

namespace Codec

variable {α : Type}

theorem textual_string : string.Textual := fun f s => ⟨f s, rfl⟩

theorem textual_bool : bool.Textual := fun _ b => ⟨b, rfl⟩

theorem Textual.list {c : Codec α} (hc : c.Textual) : (list c).Textual := by
  intro f as
  choose g hg using hc f
  refine ⟨as.map g, ?_⟩
  simp only [Codec.list, Json.mapStrings, Json.mapStringsInItems_eq, List.map_map]
  exact congrArg Json.arr (List.map_congr_left fun a _ => hg a)

theorem Textual.map {c : Codec α} (hc : c.Textual) : (map c).Textual := by
  intro f m
  choose g hg using hc f
  refine ⟨m.mapValues g, ?_⟩
  simp only [Codec.map, Json.mapStrings, Json.mapStringsInEntries_eq, SortedMap.mapValues,
    List.map_map]
  exact congrArg Json.obj (List.map_congr_left fun e _ => congrArg (e.1, ·) (hg e.2))

end Codec

namespace Fields

variable {α β : Type} {f : Fields α} {g : Fields β} {c : Codec α}

theorem textual_optional (key : String) (hc : c.Textual) : (optional key c).Textual := by
  intro f a
  cases a with
  | none => exact ⟨none, rfl⟩
  | some a =>
      obtain ⟨a', ha'⟩ := hc f a
      exact ⟨some a', congrArg (fun j => [(key, j)]) ha'⟩

theorem textual_defaulted (key : String) (hc : c.Textual) (fallback : α) :
    (defaulted key c fallback).Textual := by
  intro f a
  obtain ⟨a', ha'⟩ := hc f a
  exact ⟨a', congrArg (fun j => [(key, j)]) ha'⟩

theorem Textual.and (hf : f.Textual) (hg : g.Textual) (disjoint : ∀ k ∈ f.keys, k ∉ g.keys) :
    (f.and g disjoint).Textual := by
  intro h p
  obtain ⟨a', ha'⟩ := hf h p.1
  obtain ⟨b', hb'⟩ := hg h p.2
  refine ⟨(a', b'), ?_⟩
  rw [Json.mapStringsInEntries_eq] at ha' hb' ⊢
  simp only [Fields.and, List.map_append, ha', hb']

theorem Textual.iso (hf : f.Textual) {pack : α → β} {unpack : β → α}
    (pack_unpack : ∀ b, pack (unpack b) = b) (unpack_pack : ∀ a, unpack (pack a) = a) :
    (f.iso pack unpack pack_unpack).Textual := by
  intro h b
  obtain ⟨a', ha'⟩ := hf h (unpack b)
  refine ⟨pack a', ?_⟩
  simp only [Fields.iso, unpack_pack]
  exact ha'

theorem Textual.codec (hf : f.Textual) : f.codec.Textual := by
  intro h a
  obtain ⟨a', ha'⟩ := hf h a
  exact ⟨a', congrArg Json.obj ha'⟩

end Fields

end ApiPlatform
