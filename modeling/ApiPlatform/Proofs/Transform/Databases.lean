import ApiPlatform.Proofs.Transform.Adaptable
/-!
# Moving databases out

The objects that host databases leave together, and the Secret with the connection is replaced by
one that holds the address alone.  What remains of an adaptable bundle is adaptable.
-/

namespace ApiPlatform

namespace Catalog

/-- The Secret with the address of an external system database. -/
def externalConnection (o : HighAvailabilityOptions) : Resource :=
  secret databaseSecret (Labels.component o.appLabel "system")
    [(databaseUrlField, o.systemDatabaseUrl)]

theorem sound_externalConnection (o : HighAvailabilityOptions) : (externalConnection o).Sound where
  app := Labels.contains_appKey_component _ _
  component := Labels.contains_componentKey_component _ _
  mounts := List.nil_subset _
  hookVolumes := List.nil_subset _

theorem externalConnection_meets (o : HighAvailabilityOptions) :
    (externalConnection o).Meets Bundle.connection :=
  ⟨rfl, List.mem_cons_self⟩

end Catalog

namespace HighAvailability

open Catalog (HighAvailabilityOptions ObjectStorageOptions externalConnection)

variable {storage : Option ObjectStorageOptions} {b : Bundle} {r : Resource} {n : Need}
variable (o : HighAvailabilityOptions)

theorem mem_entries_removeAll {keys : List ObjectKey} {e : ObjectKey × Resource} :
    e ∈ (keys.foldl Bundle.removeObject b).objects.entries ↔
      e ∈ b.objects.entries ∧ e.1 ∉ keys := by
  induction keys generalizing b with
  | nil => simp
  | cons key keys ih =>
      rw [List.foldl_cons, ih]
      simp only [Bundle.removeObject, OrderedMap.erase, List.mem_filter, decide_eq_true_eq,
        List.mem_cons, not_or, and_assoc]

theorem capabilities_removeAll (keys : List ObjectKey) :
    (keys.foldl Bundle.removeObject b).capabilities = b.capabilities := by
  induction keys generalizing b with
  | nil => rfl
  | cons key keys ih => exact ih

theorem mem_entries_dropDatabases {e : ObjectKey × Resource} :
    e ∈ (dropDatabases b).objects.entries ↔ e ∈ b.objects.entries ∧ ¬ b.Hosts e.1 :=
  mem_entries_removeAll

@[simp] theorem capabilities_dropDatabases : (dropDatabases b).capabilities = b.capabilities :=
  capabilities_removeAll _

theorem replaceConnections_eq
    (h : b.capabilities.connectionSecrets.contains Catalog.databaseSecret) :
    replaceConnections o b = b.upsertObject (externalConnection o) :=
  if_pos ⟨rfl, h⟩

section Replaced

variable (hb : b.Adaptable storage)
include hb

theorem replaceConnections_dropDatabases :
    replaceConnections o (dropDatabases b) =
      (dropDatabases b).upsertObject (externalConnection o) :=
  replaceConnections_eq o (by simpa using hb.replaced)

theorem eq_or_mem_of_mem_replaced
    (h : r ∈ (replaceConnections o (dropDatabases b)).objects.values) :
    r = externalConnection o ∨ r ∈ b.objects.values ∧ ¬ b.Hosts r.key := by
  obtain ⟨k, hk⟩ := OrderedMap.mem_values.1 h
  rw [replaceConnections_dropDatabases o hb] at hk
  rcases OrderedMap.eq_or_mem_of_mem_insertIn hk with heq | hmem
  · cases heq
    exact .inl rfl
  · obtain ⟨hmem, hhosts⟩ := mem_entries_dropDatabases.1 hmem
    have hkey : k = r.key := hb.keyed _ hmem
    exact .inr ⟨OrderedMap.mem_values.2 ⟨k, hmem⟩, hkey ▸ hhosts⟩

theorem externalConnection_mem :
    externalConnection o ∈ (replaceConnections o (dropDatabases b)).objects.values := by
  rw [replaceConnections_dropDatabases o hb]
  exact OrderedMap.mem_values.2 ⟨_, OrderedMap.mem_insertIn_self _ _ _⟩

theorem mem_replaced (hr : r ∈ b.objects.values) (hhosts : ¬ b.Hosts r.key)
    (hkey : r.key ≠ Bundle.connectionKey) :
    r ∈ (replaceConnections o (dropDatabases b)).objects.values := by
  obtain ⟨k, hk⟩ := OrderedMap.mem_values.1 hr
  have heq : k = r.key := hb.keyed _ hk
  subst heq
  rw [replaceConnections_dropDatabases o hb]
  refine OrderedMap.mem_values.2 ⟨r.key, OrderedMap.mem_insertIn_of_ne ?_ hkey⟩
  exact mem_entries_dropDatabases.2 ⟨hk, hhosts⟩

theorem capabilities_replaced :
    (replaceConnections o (dropDatabases b)).capabilities = b.capabilities := by
  rw [replaceConnections_dropDatabases o hb]
  exact capabilities_dropDatabases

theorem hosts_replaced_iff (k : ObjectKey) :
    (replaceConnections o (dropDatabases b)).Hosts k ↔ b.Hosts k := by
  unfold Bundle.Hosts
  rw [capabilities_replaced o hb]

theorem lasts_replaced (hn : b.Lasts n) : (replaceConnections o (dropDatabases b)).Lasts n := by
  obtain ⟨r, hr, hhosts, hkey, hmeets⟩ := hn
  exact ⟨r, mem_replaced o hb hr hhosts hkey, (not_congr (hosts_replaced_iff o hb _)).2 hhosts,
    hkey, hmeets⟩

/-- Whatever stays refers to the new connection or to what stays. -/
theorem offers_replaced (hn : n = Bundle.connection ∨ b.Lasts n) :
    (replaceConnections o (dropDatabases b)).Offers n := by
  rcases hn with rfl | hn
  · exact ⟨externalConnection o, externalConnection_mem o hb, Catalog.externalConnection_meets o⟩
  · exact (lasts_replaced o hb hn).offers

theorem adaptable_replaced : (replaceConnections o (dropDatabases b)).Adaptable storage where
  sound r hr := by
    rcases eq_or_mem_of_mem_replaced o hb hr with rfl | ⟨hr, -⟩
    · exact Catalog.sound_externalConnection o
    · exact hb.sound r hr
  closed r hr n hn := by
    rcases eq_or_mem_of_mem_replaced o hb hr with rfl | ⟨hr, hhosts⟩
    · cases hn
    · exact offers_replaced o hb (hb.lasting r hr hhosts n hn)
  keyed e he := by
    rw [replaceConnections_dropDatabases o hb] at he
    rcases OrderedMap.eq_or_mem_of_mem_insertIn he with rfl | he
    · rfl
    · exact hb.keyed e (mem_entries_dropDatabases.1 he).1
  lasting r hr _ n hn := by
    rcases eq_or_mem_of_mem_replaced o hb hr with rfl | ⟨hr, hhosts⟩
    · cases hn
    · exact (hb.lasting r hr hhosts n hn).imp_right (lasts_replaced o hb)
  replaced := (capabilities_replaced o hb).symm ▸ hb.replaced
  stays := (not_congr (hosts_replaced_iff o hb _)).2 hb.stays
  shared s hs r hr v hv hclaim := by
    rw [capabilities_replaced o hb] at hs
    rcases eq_or_mem_of_mem_replaced o hb hr with rfl | ⟨hr, -⟩
    · cases hv
    · exact hb.shared s hs r hr v hv hclaim
  environment s hs := by
    rw [capabilities_replaced o hb] at hs
    exact lasts_replaced o hb (hb.environment s hs)
  credentials o' ho n hn := lasts_replaced o hb (hb.credentials o' ho n hn)

end Replaced

/-! ## The other steps -/

theorem extends_removeParameter (name : String) (b : Bundle) :
    b.Extends [] (b.removeParameter name) :=
  .of_objects_eq rfl rfl

theorem extends_scale (replicas : Int32) (c : Capabilities) (r : Resource) :
    r.Extends [] (scale replicas c r) := by
  unfold scale
  split
  · cases r with
    | deployment d =>
        rcases d with ⟨_, _ | _, _⟩ <;>
          exact Resource.Keeps.extends ⟨rfl, rfl, fun _ h => h, rfl, rfl, rfl, rfl⟩ rfl rfl rfl rfl
    | _ => exact Resource.Keeps.extends ⟨rfl, rfl, fun _ h => h, rfl, rfl, rfl, rfl⟩ rfl rfl rfl rfl
  · exact .refl r

theorem extends_writeEntry (field url : String) (r : Resource) :
    r.Extends [] (writeEntry field url r) := by
  cases r with
  | secret s =>
      have hfields : (Resource.secret s).fields ⊆ (writeEntry field url (.secret s)).fields := by
        refine List.append_subset.2 ⟨List.subset_append_left _ _, fun k hk => ?_⟩
        exact List.mem_append_right _ (SortedMap.mem_keys_insert.2 (.inr hk))
      exact Resource.Keeps.extends ⟨rfl, rfl, hfields, rfl, rfl, rfl, rfl⟩ rfl rfl rfl rfl
  | _ => exact .refl _

theorem adaptable_writeEndpoint {url : String} {fields : List EndpointField}
    (hb : b.Adaptable storage) : (writeEndpoint url fields b).Adaptable storage := by
  induction fields generalizing b with
  | nil => exact hb
  | cons f fields ih =>
      have hwrite : b.Extends [] (b.modifyObject (.template .secret f.secret)
          (writeEntry f.field url)) := .modifyObject (extends_writeEntry _ _) b _
      exact ih (hwrite.adaptable hb (by simp))

theorem adaptable_writeEndpoints (hb : b.Adaptable storage) :
    (writeEndpoints o b).Adaptable storage := by
  unfold writeEndpoints
  exact List.foldlRecOn (motive := fun b : Bundle => b.Adaptable storage) _ _ hb
    fun b hb e _ => adaptable_writeEndpoint hb

theorem adaptable_dropParameters (hb : b.Adaptable storage) :
    (dropParameters b).Adaptable storage := by
  unfold dropParameters
  exact List.foldlRecOn (motive := fun b : Bundle => b.Adaptable storage) _ _ hb
    fun b hb name _ => (extends_removeParameter name b).adaptable hb (by simp)

/-- Moving the databases out leaves a bundle adaptable. -/
theorem adaptable_run (hb : b.Adaptable storage) :
    ∃ b', (transform o).run b = .ok b' ∧ b'.Adaptable storage := by
  refine ⟨_, rfl, adaptable_writeEndpoints o ?_⟩
  have hreplaced := adaptable_dropParameters (adaptable_replaced o hb)
  exact (Bundle.Extends.mapObjects (extends_scale _ _) _).adaptable hreplaced (by simp)

end HighAvailability

end ApiPlatform
