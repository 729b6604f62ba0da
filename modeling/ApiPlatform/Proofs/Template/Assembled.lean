import Mathlib.Data.List.Nodup
import ApiPlatform.Template.Contributions
/-!
# What an assembled bundle holds

Identities are new when objects are pushed.  So an assembled bundle holds the objects of its
contributions in order, each once and under its own identity, and the union of what they declare.
-/

namespace ApiPlatform

namespace Capabilities

variable {cs : List Capabilities} {c : Capabilities}

/-- Several declarations together. -/
def mergeAll (c : Capabilities) (cs : List Capabilities) : Capabilities := cs.foldl merge c

theorem mem_keys_externalDatabaseObjects_mergeAll {k : ObjectKey} :
    k ∈ (c.mergeAll cs).externalDatabaseObjects.keys ↔
      k ∈ c.externalDatabaseObjects.keys ∨ ∃ d ∈ cs, k ∈ d.externalDatabaseObjects.keys := by
  induction cs generalizing c with
  | nil => simp [mergeAll]
  | cons d cs ih =>
      have hcons : c.mergeAll (d :: cs) = (c.merge d).mergeAll cs := rfl
      have hmerge : k ∈ (c.merge d).externalDatabaseObjects.keys ↔
          k ∈ c.externalDatabaseObjects.keys ∨ k ∈ d.externalDatabaseObjects.keys :=
        SortedMap.mem_keys_union
      rw [hcons, ih, hmerge, or_assoc]
      simp

theorem contains_connectionSecrets_mergeAll {name : String} :
    (c.mergeAll cs).connectionSecrets.contains name ↔
      c.connectionSecrets.contains name ∨ ∃ d ∈ cs, d.connectionSecrets.contains name := by
  induction cs generalizing c with
  | nil => simp [mergeAll]
  | cons d cs ih =>
      have hcons : c.mergeAll (d :: cs) = (c.merge d).mergeAll cs := rfl
      have hmerge : (c.merge d).connectionSecrets.contains name ↔
          c.connectionSecrets.contains name ∨ d.connectionSecrets.contains name := by
        simp only [SortedMap.contains_iff_mem_keys]
        exact SortedMap.mem_keys_union
      rw [hcons, ih, hmerge, or_assoc]
      simp

theorem sharedStorage_mergeAll :
    (c.mergeAll cs).sharedStorage = c.sharedStorage ++ cs.flatMap (·.sharedStorage) := by
  induction cs generalizing c with
  | nil => simp [mergeAll]
  | cons d cs ih =>
      have hcons : c.mergeAll (d :: cs) = (c.merge d).mergeAll cs := rfl
      have hmerge : (c.merge d).sharedStorage = c.sharedStorage ++ d.sharedStorage := rfl
      rw [hcons, ih, hmerge, List.append_assoc, List.flatMap_cons]

end Capabilities

namespace OrderedMap

variable {κ α : Type} [DecidableEq κ] {m : OrderedMap κ α} {k : κ}

theorem contains_of_mem_keys (h : k ∈ m.keys) : m.contains k = true := by
  obtain ⟨⟨k, v⟩, hmem, rfl⟩ := List.mem_map.1 h
  obtain ⟨u, hget, -⟩ := exists_get?_of_mem hmem
  rw [contains, hget]
  rfl

/-- A new key comes at the end. -/
theorem insert_of_notMem (h : k ∉ m.keys) (v : α) : m.insert k v = ⟨m.entries ++ [(k, v)]⟩ := by
  obtain ⟨es⟩ := m
  unfold keys at h
  refine congrArg mk ?_
  dsimp only at h ⊢
  induction es with
  | nil => rfl
  | cons e es ih =>
      rw [List.map_cons, List.mem_cons, not_or] at h
      rw [insertIn, if_neg (Ne.symm h.1), ih h.2, List.cons_append]

end OrderedMap

namespace Bundle

/-- The bundle holds the given objects, each under its own identity, and the given declarations. -/
structure Holds (rs : List Resource) (c : Capabilities) (b : Bundle) : Prop where
  entries : b.objects.entries = rs.map fun r => (r.key, r)
  fresh : (rs.map (·.key)).Nodup
  capabilities : b.capabilities = c

variable {rs new : List Resource} {c : Capabilities} {b b' : Bundle}

theorem Holds.keys (h : b.Holds rs c) : b.objects.keys = rs.map (·.key) := by
  unfold OrderedMap.keys
  rw [h.entries, List.map_map]
  rfl

theorem Holds.values (h : b.Holds rs c) : b.objects.values = rs := by
  unfold OrderedMap.values
  rw [h.entries, List.map_map]
  exact List.map_id rs

/-- No two objects share an identity. -/
theorem Holds.eq_of_key_eq (h : b.Holds rs c) {r r' : Resource} (hr : r ∈ rs) (hr' : r' ∈ rs)
    (hkey : r.key = r'.key) : r = r' :=
  List.inj_on_of_nodup_map h.fresh hr hr' hkey

theorem holds_pushParameters {ps : List Parameter} (h : b.Holds rs c)
    (hpush : pushParameters ps b = .ok b') : b'.Holds rs c := by
  induction ps generalizing b with
  | nil =>
      cases hpush
      exact h
  | cons p ps ih =>
      obtain ⟨b₁, hfirst, hrest⟩ := Failure.bind_eq_ok.1 hpush
      have hb₁ : b₁.Holds rs c := by
        unfold pushParameter at hfirst
        split at hfirst <;> cases hfirst
        exact ⟨h.entries, h.fresh, h.capabilities⟩
      exact ih hb₁ hrest

theorem holds_pushObject {r : Resource} (h : b.Holds rs c) (hpush : b.pushObject r = .ok b') :
    b'.Holds (rs ++ [r]) c := by
  unfold pushObject at hpush
  split at hpush
  · cases hpush
  · next hcontains =>
      cases hpush
      have hnew : r.key ∉ b.objects.keys := fun hmem =>
        hcontains (OrderedMap.contains_of_mem_keys hmem)
      refine ⟨?_, ?_, h.capabilities⟩
      · rw [OrderedMap.insert_of_notMem hnew, h.entries, List.map_append]
        rfl
      · rw [h.keys] at hnew
        rw [List.map_append]
        exact h.fresh.append (List.nodup_singleton _) (by simpa using hnew)

theorem holds_pushObjects (h : b.Holds rs c) (hpush : pushObjects new b = .ok b') :
    b'.Holds (rs ++ new) c := by
  induction new generalizing b rs with
  | nil =>
      cases hpush
      rwa [List.append_nil]
  | cons r new ih =>
      obtain ⟨b₁, hfirst, hrest⟩ := Failure.bind_eq_ok.1 hpush
      have hnew := ih (holds_pushObject h hfirst) hrest
      rwa [List.append_assoc] at hnew

theorem holds_contribute {d : Contribution} (h : b.Holds rs c) (hd : b.contribute d = .ok b') :
    ∃ new, d.objects = .ok new ∧ b'.Holds (rs ++ new) (c.merge d.capabilities) := by
  obtain ⟨b₁, hparameters, hd⟩ := Failure.bind_eq_ok.1 hd
  obtain ⟨new, hnew, hd⟩ := Failure.bind_eq_ok.1 hd
  obtain ⟨b₂, hobjects, hd⟩ := Failure.bind_eq_ok.1 hd
  rw [Failure.mapError_eq_ok] at hparameters hnew hobjects
  have hb₂ := holds_pushObjects (holds_pushParameters h hparameters) hobjects
  cases hd
  refine ⟨new, hnew, hb₂.entries, hb₂.fresh, ?_⟩
  unfold mergeCapabilities
  rw [hb₂.capabilities]

/-! ## Components -/

open Catalog (Component)

variable {parameters : Component → List Parameter} {calls : Component → OptionCalls}

/-- What a component was built with. -/
def checked (calls : Component → OptionCalls) (p : Component) : OptionRecord :=
  (p.schema.build (calls p)).toOption.getD []

/-- The components as contributions. -/
def ofComponents (parameters : Component → List Parameter) (calls : Component → OptionCalls)
    (parts : List Component) : List Contribution :=
  parts.map fun p => Contributions.ofComponent p (parameters p) (calls p)

theorem holds_contributeAll {parts : List Component} (h : b.Holds rs c)
    (hall : contributeAll (ofComponents parameters calls parts) b = .ok b') :
    b'.Holds (rs ++ parts.flatMap fun p => p.objectsOf (checked calls p))
      (c.mergeAll (parts.map (·.capabilities))) := by
  induction parts generalizing b rs c with
  | nil =>
      cases hall
      simpa [Capabilities.mergeAll] using h
  | cons p parts ih =>
      obtain ⟨b₁, hfirst, hrest⟩ := Failure.bind_eq_ok.1 hall
      obtain ⟨new, hnew, hb₁⟩ := holds_contribute h hfirst
      have hnew : new = p.objectsOf (checked calls p) := by
        change (p.schema.build (calls p)).map p.objectsOf = .ok new at hnew
        unfold checked
        cases hbuild : p.schema.build (calls p) with
        | error e =>
            rw [hbuild] at hnew
            cases hnew
        | ok record =>
            rw [hbuild] at hnew
            cases hnew
            rfl
      subst hnew
      have hrest := ih hb₁ hrest
      rwa [List.append_assoc] at hrest

/-- A bundle assembled from components holds the objects of each, made of its checked options. -/
theorem holds_assemble {parts : List Component}
    (h : assemble (ofComponents parameters calls parts) = .ok b) :
    b.Holds (parts.flatMap fun p => p.objectsOf (checked calls p))
      (Capabilities.mergeAll {} (parts.map (·.capabilities))) := by
  have hempty : Bundle.Holds [] {} {} := ⟨rfl, .nil, rfl⟩
  exact holds_contributeAll hempty h

end Bundle

end ApiPlatform
