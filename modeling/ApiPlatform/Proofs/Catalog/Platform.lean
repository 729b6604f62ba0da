import ApiPlatform.Proofs.Catalog.Outline
import ApiPlatform.Proofs.Template.Assembled
import ApiPlatform.Proofs.Transform.Adaptable
/-!
# The platform holds together

The objects of nine components refer to each other across component boundaries.  Their outlines are
fixed, so that every reference can be followed once and for all, in the whole platform and in what
remains of it without the databases.  A bundle that is assembled from these components, with or
without the credentials of object storage, is therefore adaptable.
-/

namespace ApiPlatform

namespace Catalog.Component

/-- The components that make up every deployment. -/
def core : List Component :=
  [.images, .redis, .backend, .mysql, .memcached, .system, .zync, .gateways, .wildcardRouter]

/-- The outlines of the platform. -/
def outlines : List Outline := core.flatMap fun c => (c.objectsOf []).map (·.outline)

/-- The identities that are declared to host databases. -/
def hosted : List ObjectKey := core.flatMap (·.capabilities.externalDatabaseObjects.keys)

/-- The volumes that are declared to be shared. -/
def shared : List SharedStorage := core.flatMap (·.capabilities.sharedStorage)

/-- Whether a reference is met within the platform by an object that is there to stay. -/
def Lasting (n : Need) : Prop :=
  ∃ x ∈ outlines, x.key ∉ hosted ∧ x.key ≠ Bundle.connectionKey ∧ x.Meets n

instance : DecidablePred Lasting := fun _ => inferInstanceAs (Decidable (∃ x ∈ outlines, _))

theorem mounts_outlines :
    ∀ x ∈ outlines, x.mounts ⊆ x.volumes.map (·.name) ∧ x.hookVolumes ⊆ x.volumes.map (·.name) := by
  decide

/-- What stays without the databases refers to what stays, or to the address of the database. -/
theorem lasting_outlines :
    ∀ x ∈ outlines, x.key ∉ hosted → ∀ n ∈ x.needs, n = Bundle.connection ∨ Lasting n := by
  decide +kernel

theorem hosted_outlines :
    ∀ x ∈ outlines, x.key ∈ hosted → ∀ n ∈ x.needs, ∃ y ∈ outlines, y.Meets n := by
  decide

theorem connection_outlines : ∃ y ∈ outlines, y.Meets Bundle.connection := by
  decide

theorem shared_outlines :
    ∀ s ∈ shared, ∀ x ∈ outlines, ∀ v ∈ x.volumes, v.persistentVolumeClaim = some s.claim →
      v.name = s.volume ∧ s.workloads.contains x.key.name := by
  decide

theorem environment_outlines : ∀ s ∈ shared, Lasting (.configMap s.environmentConfigMap) := by
  decide

theorem kind_hosted : ∀ k ∈ hosted, k.kind ≠ .secret := by
  decide

/-! ## Bundles of components -/

variable {calls : Component → OptionCalls} {parts : List Component} {b : Bundle}
variable {storage : Option ObjectStorageOptions} {n : Need} {x : Outline} {r : Resource}

/-- The objects of some components, made of their checked options. -/
def objectsOfAll (calls : Component → OptionCalls) (parts : List Component) : List Resource :=
  parts.flatMap fun p => p.objectsOf (Bundle.checked calls p)

theorem ne_objectStorage {p : Component} (hp : p ∈ core) : p ≠ .objectStorage := by
  rintro rfl
  exact absurd hp (by decide)

theorem outline_mem_outlines {p : Component} (hp : p ∈ core) {record : OptionRecord}
    (hr : r ∈ p.objectsOf record) : r.outline ∈ outlines := by
  refine List.mem_flatMap.2 ⟨p, hp, ?_⟩
  rw [← outline_objectsOf (ne_objectStorage hp) record]
  exact List.mem_map_of_mem hr

/-- A bundle of the core components, with or without the credentials of object storage. -/
structure Deployed (calls : Component → OptionCalls) (parts : List Component) (b : Bundle) :
    Prop where
  complete : core ⊆ parts
  known : parts ⊆ .objectStorage :: core
  holds : b.Holds (objectsOfAll calls parts)
    (Capabilities.mergeAll {} (parts.map (·.capabilities)))

namespace Deployed

variable (hb : Deployed calls parts b)
include hb

/-- Only core components declare anything. -/
theorem exists_capabilities_iff {α : Type} {f : Capabilities → List α} (hf : f {} = []) {a : α} :
    (∃ d ∈ parts.map (·.capabilities), a ∈ f d) ↔
      a ∈ core.flatMap fun p => f p.capabilities := by
  simp only [List.mem_map, List.mem_flatMap]
  constructor
  · rintro ⟨_, ⟨p, hp, rfl⟩, ha⟩
    rcases List.mem_cons.1 (hb.known hp) with rfl | hp
    · rw [show capabilities .objectStorage = {} from rfl, hf] at ha
      cases ha
    · exact ⟨p, hp, ha⟩
  · rintro ⟨p, hp, ha⟩
    exact ⟨_, ⟨p, hb.complete hp, rfl⟩, ha⟩

theorem hosts_iff (k : ObjectKey) : b.Hosts k ↔ k ∈ hosted := by
  unfold Bundle.Hosts
  rw [hb.holds.capabilities, Capabilities.mem_keys_externalDatabaseObjects_mergeAll,
    hb.exists_capabilities_iff (f := fun c => c.externalDatabaseObjects.keys) rfl]
  exact or_iff_right List.not_mem_nil

theorem mem_sharedStorage_iff (s : SharedStorage) :
    s ∈ b.capabilities.sharedStorage ↔ s ∈ shared := by
  rw [hb.holds.capabilities, Capabilities.sharedStorage_mergeAll, List.nil_append,
    List.mem_flatMap, hb.exists_capabilities_iff (f := fun c => c.sharedStorage) rfl]
  rfl

theorem exists_of_mem_outlines (hx : x ∈ outlines) :
    ∃ r ∈ b.objects.values, r.outline = x ∧ r.Labelled := by
  obtain ⟨p, hp, hx⟩ := List.mem_flatMap.1 hx
  rw [← outline_objectsOf (ne_objectStorage hp) (Bundle.checked calls p)] at hx
  obtain ⟨r, hr, rfl⟩ := List.mem_map.1 hx
  refine ⟨r, ?_, rfl, labelled_objectsOf p _ r hr⟩
  rw [hb.holds.values]
  exact List.mem_flatMap.2 ⟨p, hb.complete hp, hr⟩

theorem offers_of_meets (h : ∃ x ∈ outlines, x.Meets n) : b.Offers n := by
  obtain ⟨x, hx, hmeets⟩ := h
  obtain ⟨r, hr, rfl, hlabelled⟩ := hb.exists_of_mem_outlines hx
  exact ⟨r, hr, hmeets.resource hlabelled⟩

theorem lasts_of_lasting (h : Lasting n) : b.Lasts n := by
  obtain ⟨x, hx, hhosted, hkey, hmeets⟩ := h
  obtain ⟨r, hr, rfl, hlabelled⟩ := hb.exists_of_mem_outlines hx
  exact ⟨r, hr, (not_congr (hb.hosts_iff _)).2 hhosted, hkey, hmeets.resource hlabelled⟩

/-- An object is one of the platform or holds the credentials of object storage. -/
theorem mem_values_cases (hr : r ∈ b.objects.values) :
    (r.outline ∈ outlines ∧ r.Labelled) ∨
      r ∈ ObjectStorage.objects (.ofRecord (Bundle.checked calls .objectStorage)) := by
  rw [hb.holds.values] at hr
  obtain ⟨p, hp, hr⟩ := List.mem_flatMap.1 hr
  rcases List.mem_cons.1 (hb.known hp) with rfl | hp
  · exact .inr hr
  · exact .inl ⟨outline_mem_outlines hp hr, labelled_objectsOf p _ r hr⟩

theorem offers_of_mem_needs (hr : r ∈ b.objects.values) (hn : n ∈ r.needs) : b.Offers n := by
  rcases hb.mem_values_cases hr with ⟨hr, -⟩ | hr
  · by_cases hhosted : r.key ∈ hosted
    · exact hb.offers_of_meets (hosted_outlines _ hr hhosted n hn)
    · rcases lasting_outlines _ hr hhosted n hn with rfl | hlasting
      · exact hb.offers_of_meets connection_outlines
      · exact (hb.lasts_of_lasting hlasting).offers
  · cases List.mem_singleton.1 hr
    cases hn

/-- The credentials of object storage do not leave with the databases. -/
theorem lasts_credentials (hpart : .objectStorage ∈ parts) :
    ∀ n ∈ ExternalStorage.credentials (.ofRecord (Bundle.checked calls .objectStorage)),
      b.Lasts n := by
  let o : ObjectStorageOptions := .ofRecord (Bundle.checked calls .objectStorage)
  let entries := [(accessKeyIdField, o.accessKeyId), (secretAccessKeyField, o.secretAccessKey)]
  let r := secret o.credentialsSecret (Labels.component o.appLabel "system") entries
  have hr : r ∈ b.objects.values := by
    rw [hb.holds.values]
    exact List.mem_flatMap.2 ⟨.objectStorage, hpart, List.mem_singleton_self r⟩
  have hfields : ∀ field, field ∈ r.fields ↔ field ∈ [accessKeyIdField, secretAccessKeyField] :=
    fun _ => SortedMap.mem_keys_ofList
  have hhosts : ¬ b.Hosts r.key := fun h => kind_hosted _ ((hb.hosts_iff _).1 h) rfl
  -- The address of the database is in another Secret, and no two objects share an identity.
  have hkey : r.key ≠ Bundle.connectionKey := by
    intro heq
    obtain ⟨r', hr', hkey', hfield⟩ := hb.offers_of_meets connection_outlines
    have hsame : r' = r := by
      rw [hb.holds.values] at hr hr'
      exact hb.holds.eq_of_key_eq hr' hr (hkey'.trans heq.symm)
    rw [hsame, hfields] at hfield
    exact absurd hfield (by decide)
  intro n hn
  simp only [ExternalStorage.credentials, List.mem_cons, List.not_mem_nil, or_false] at hn
  rcases hn with rfl | rfl
  · exact ⟨r, hr, hhosts, hkey, rfl, (hfields _).2 List.mem_cons_self⟩
  · exact ⟨r, hr, hhosts, hkey, rfl, (hfields _).2 (List.mem_cons_of_mem _ List.mem_cons_self)⟩

/-- A bundle of the components is adaptable. -/
theorem adaptable (hstorage : ∀ o ∈ storage, .objectStorage ∈ parts ∧
      o = .ofRecord (Bundle.checked calls .objectStorage)) : b.Adaptable storage where
  sound r hr := by
    rcases hb.mem_values_cases hr with ⟨hr, hlabelled⟩ | hr
    · obtain ⟨hmounts, hvolumes⟩ := mounts_outlines _ hr
      exact ⟨hlabelled.app, hlabelled.component, hmounts, hvolumes⟩
    · have hlabelled := labelled_objectsOf .objectStorage _ r hr
      cases List.mem_singleton.1 hr
      exact ⟨hlabelled.app, hlabelled.component, List.nil_subset _, List.nil_subset _⟩
  closed r hr n hn := hb.offers_of_mem_needs hr hn
  keyed e he := by
    rw [hb.holds.entries] at he
    obtain ⟨r, -, rfl⟩ := List.mem_map.1 he
    rfl
  lasting r hr hhosts n hn := by
    rw [hb.hosts_iff] at hhosts
    rcases hb.mem_values_cases hr with ⟨hr, -⟩ | hr
    · exact (lasting_outlines _ hr hhosts n hn).imp_right hb.lasts_of_lasting
    · cases List.mem_singleton.1 hr
      cases hn
  replaced := by
    have hmysql : .mysql ∈ core := by decide
    rw [hb.holds.capabilities, Capabilities.contains_connectionSecrets_mergeAll]
    exact .inr ⟨_, List.mem_map_of_mem (hb.complete hmysql), by decide⟩
  stays := by
    rw [hb.hosts_iff]
    exact fun h => kind_hosted _ h rfl
  shared s hs r hr v hv hclaim := by
    rw [hb.mem_sharedStorage_iff] at hs
    rcases hb.mem_values_cases hr with ⟨hr, -⟩ | hr
    · exact shared_outlines s hs _ hr v hv hclaim
    · cases List.mem_singleton.1 hr
      cases hv
  environment s hs := by
    rw [hb.mem_sharedStorage_iff] at hs
    exact hb.lasts_of_lasting (environment_outlines s hs)
  credentials o ho := by
    obtain ⟨hpart, rfl⟩ := hstorage o ho
    exact hb.lasts_credentials hpart

end Deployed

end Catalog.Component

end ApiPlatform
