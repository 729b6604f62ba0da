import ApiPlatform.Proofs.Transform.Extension
/-!
# Adaptable bundles

A bundle is adaptable if it is coherent and stays so when the databases that it hosts leave and
when object storage takes the place of its shared volumes.  The databases take their Secret with
them, and only the address in it comes back; so whatever stays may name nothing else of it.
-/

namespace ApiPlatform

open Catalog (ObjectStorageOptions)

/-- The credentials that workloads with object storage read. -/
def ExternalStorage.credentials (o : ObjectStorageOptions) : List Need :=
  [.secretEntry o.credentialsSecret Catalog.accessKeyIdField,
    .secretEntry o.credentialsSecret Catalog.secretAccessKeyField]

namespace Bundle

/-- The identity of the Secret with the connection of the system database. -/
def connectionKey : ObjectKey := .template .secret Catalog.databaseSecret

/-- The address of the system database. -/
def connection : Need := .secretEntry Catalog.databaseSecret Catalog.databaseUrlField

/-- Whether an identity is declared to host an internal database or cache. -/
def Hosts (b : Bundle) (k : ObjectKey) : Prop := k ∈ b.capabilities.externalDatabaseObjects.keys

/-- Whether a reference is met by an object that stays when the databases leave. -/
def Lasts (b : Bundle) (n : Need) : Prop :=
  ∃ r ∈ b.objects.values, ¬ b.Hosts r.key ∧ r.key ≠ connectionKey ∧ r.Meets n

/-- A bundle that every transform leaves coherent. -/
structure Adaptable (storage : Option ObjectStorageOptions) (b : Bundle) : Prop
    extends Coherent b where
  /-- Every object stands under its identity. -/
  keyed : ∀ e ∈ b.objects.entries, e.1 = e.2.key
  /-- What stays without the databases refers to what stays, or to the address. -/
  lasting : ∀ r ∈ b.objects.values, ¬ b.Hosts r.key → ∀ n ∈ r.needs, n = connection ∨ b.Lasts n
  /-- The connection is replaced and does not just leave. -/
  replaced : b.capabilities.connectionSecrets.contains Catalog.databaseSecret
  stays : ¬ b.Hosts connectionKey
  /-- The claim of a shared storage is used under one name, by the workloads that it lists. -/
  shared : ∀ s ∈ b.capabilities.sharedStorage, ∀ r ∈ b.objects.values, ∀ v ∈ r.volumes,
    v.persistentVolumeClaim = some s.claim → v.name = s.volume ∧ s.workloads.contains r.name
  environment : ∀ s ∈ b.capabilities.sharedStorage, b.Lasts (.configMap s.environmentConfigMap)
  credentials : ∀ o ∈ storage, ∀ n ∈ ExternalStorage.credentials o, b.Lasts n

variable {storage : Option ObjectStorageOptions} {extra : List Need} {b b' : Bundle} {n : Need}

theorem Lasts.offers (h : b.Lasts n) : b.Offers n := by
  obtain ⟨r, hr, -, -, hn⟩ := h
  exact ⟨r, hr, hn⟩

/-! ## Bundles with other objects under the same identities -/

/-- The bundle `b'` has an object that extends its counterpart for each object of `b`, and no
other objects. -/
structure Extends (extra : List Need) (b b' : Bundle) : Prop where
  capabilities : b'.capabilities = b.capabilities
  forth : ∀ k r, (k, r) ∈ b.objects.entries →
    ∃ r', (k, r') ∈ b'.objects.entries ∧ r.Extends extra r'
  back : ∀ k r', (k, r') ∈ b'.objects.entries →
    ∃ r, (k, r) ∈ b.objects.entries ∧ r.Extends extra r'

namespace Extends

theorem of_objects_eq (hobjects : b'.objects = b.objects)
    (hcapabilities : b'.capabilities = b.capabilities) : b.Extends extra b' where
  capabilities := hcapabilities
  forth k r h := ⟨r, by rwa [hobjects], .refl r⟩
  back k r h := ⟨r, by rwa [hobjects] at h, .refl r⟩

theorem mapObjects {f : Resource → Resource} (hf : ∀ r : Resource, r.Extends extra (f r))
    (b : Bundle) : b.Extends extra (b.mapObjects f) where
  capabilities := rfl
  forth k r h := ⟨f r, List.mem_map.2 ⟨(k, r), h, rfl⟩, hf r⟩
  back k r' h := by
    obtain ⟨⟨k, r⟩, hmem, heq⟩ := List.mem_map.1 h
    cases heq
    exact ⟨r, hmem, hf r⟩

theorem modifyObject {f : Resource → Resource} (hf : ∀ r : Resource, r.Extends extra (f r))
    (b : Bundle) (key : ObjectKey) : b.Extends extra (b.modifyObject key f) where
  capabilities := rfl
  forth k r h := by
    by_cases hk : k = key
    · exact ⟨f r, List.mem_map.2 ⟨(k, r), h, if_pos hk⟩, hf r⟩
    · exact ⟨r, List.mem_map.2 ⟨(k, r), h, if_neg hk⟩, .refl r⟩
  back k r' h := by
    obtain ⟨⟨k, r⟩, hmem, heq⟩ := List.mem_map.1 h
    dsimp only at heq
    split at heq <;> cases heq
    · exact ⟨r, hmem, hf r⟩
    · exact ⟨_, hmem, .refl _⟩

variable (h : b.Extends extra b')
include h

theorem forth_values {r : Resource} (hr : r ∈ b.objects.values) :
    ∃ r' ∈ b'.objects.values, r.Extends extra r' := by
  obtain ⟨k, hk⟩ := OrderedMap.mem_values.1 hr
  obtain ⟨r', hr', hext⟩ := h.forth k r hk
  exact ⟨r', OrderedMap.mem_values.2 ⟨k, hr'⟩, hext⟩

theorem back_values {r' : Resource} (hr' : r' ∈ b'.objects.values) :
    ∃ r ∈ b.objects.values, r.Extends extra r' := by
  obtain ⟨k, hk⟩ := OrderedMap.mem_values.1 hr'
  obtain ⟨r, hr, hext⟩ := h.back k r' hk
  exact ⟨r, OrderedMap.mem_values.2 ⟨k, hr⟩, hext⟩

theorem hosts_iff (k : ObjectKey) : b'.Hosts k ↔ b.Hosts k := by
  unfold Hosts
  rw [h.capabilities]

theorem offers (hn : b.Offers n) : b'.Offers n := by
  obtain ⟨r, hr, hmeets⟩ := hn
  obtain ⟨r', hr', hext⟩ := h.forth_values hr
  exact ⟨r', hr', hext.meets hmeets⟩

theorem lasts (hn : b.Lasts n) : b'.Lasts n := by
  obtain ⟨r, hr, hhosts, hkey, hmeets⟩ := hn
  obtain ⟨r', hr', hext⟩ := h.forth_values hr
  refine ⟨r', hr', ?_, ?_, hext.meets hmeets⟩
  · rw [h.hosts_iff, hext.key]
    exact hhosts
  · rw [hext.key]
    exact hkey

/-- Changes that only add references to what lasts keep a bundle adaptable. -/
theorem adaptable (hb : b.Adaptable storage) (hextra : ∀ n ∈ extra, b.Lasts n) :
    b'.Adaptable storage where
  sound r' hr' := by
    obtain ⟨r, hr, hext⟩ := h.back_values hr'
    exact hext.sound (hb.sound r hr)
  closed r' hr' n hn := by
    obtain ⟨r, hr, hext⟩ := h.back_values hr'
    rcases List.mem_append.1 (hext.needs hn) with hn | hn
    · exact h.offers (hb.closed r hr n hn)
    · exact h.offers (hextra n hn).offers
  keyed e he := by
    obtain ⟨r, hr, hext⟩ := h.back e.1 e.2 he
    exact (hb.keyed _ hr).trans hext.key.symm
  lasting r' hr' hhosts n hn := by
    obtain ⟨r, hr, hext⟩ := h.back_values hr'
    rw [h.hosts_iff, hext.key] at hhosts
    rcases List.mem_append.1 (hext.needs hn) with hn | hn
    · exact (hb.lasting r hr hhosts n hn).imp_right h.lasts
    · exact .inr (h.lasts (hextra n hn))
  replaced := h.capabilities ▸ hb.replaced
  stays := (not_congr (h.hosts_iff _)).2 hb.stays
  shared s hs r' hr' v hv hclaim := by
    obtain ⟨r, hr, hext⟩ := h.back_values hr'
    rw [h.capabilities] at hs
    rw [Resource.name_eq_of_key_eq hext.key]
    exact hb.shared s hs r hr v (hext.volumes hv) hclaim
  environment s hs := by
    rw [h.capabilities] at hs
    exact h.lasts (hb.environment s hs)
  credentials o ho n hn := h.lasts (hb.credentials o ho n hn)

end Extends

end Bundle

end ApiPlatform
