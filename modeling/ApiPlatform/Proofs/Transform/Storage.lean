import ApiPlatform.Proofs.Transform.Adaptable
/-!
# Moving files out

Object storage takes the place of a shared volume.  The workloads that share the volume read the
settings and the credentials instead, no object refers to the claim any more, and the claim leaves.
-/

namespace ApiPlatform

open Catalog (ObjectStorageOptions)

namespace Resource

variable {r : Resource} {c : String} {n : Need}

/-- Only a volume refers to a claim. -/
theorem claim_mem_needs_iff :
    .claim c ∈ r.needs ↔ ∃ v ∈ r.volumes, v.persistentVolumeClaim = some c := by
  have henv : .claim c ∉ r.env.flatMap (·.needs) := by
    simp only [List.mem_flatMap, not_exists, not_and]
    rintro ⟨name, value, source⟩ - hmem
    cases source <;> simp [EnvVar.needs, EnvSource.needs] at hmem
  have htraffic : .claim c ∉ r.traffic := by
    cases r <;> simp [traffic]
  simp only [needs, List.mem_append, henv, htraffic, false_or, or_false, List.mem_flatMap]
  simp [Volume.needs]

/-- A claim is good for nothing but a reference to it. -/
theorem eq_claim_of_meets (hkey : r.key = .template .persistentVolumeClaim c) (h : r.Meets n) :
    n = .claim c := by
  have hkind : r.kind = .persistentVolumeClaim := congrArg ObjectKey.kind hkey
  cases n with
  | claim name =>
      have hname := hkey.symm.trans h
      simp only [ObjectKey.template, ObjectKey.mk.injEq, true_and] at hname
      rw [hname]
  | secretEntry name field => exact absurd (hkey.symm.trans h.1) (by simp [ObjectKey.template])
  | configEntry name field => exact absurd (hkey.symm.trans h.1) (by simp [ObjectKey.template])
  | configMap name => exact absurd (hkey.symm.trans h) (by simp [ObjectKey.template])
  | pods selector ports => exact absurd h.1 (by simp [isWorkload, hkind, Kind.isWorkload])
  | backend target port => exact absurd (hkey.symm.trans h.2.1) (by simp [ObjectKey.template])

end Resource

namespace Bundle

variable {storage : Option ObjectStorageOptions} {b : Bundle} {c : String} {n : Need}

theorem mem_entries_removeObject {key : ObjectKey} {e : ObjectKey × Resource} :
    e ∈ (b.removeObject key).objects.entries ↔ e ∈ b.objects.entries ∧ e.1 ≠ key := by
  simp [removeObject, OrderedMap.erase]

namespace Adaptable

variable (hb : b.Adaptable storage)
include hb

theorem mem_values_removeObject {key : ObjectKey} {r : Resource} :
    r ∈ (b.removeObject key).objects.values ↔ r ∈ b.objects.values ∧ r.key ≠ key := by
  simp only [OrderedMap.mem_values, mem_entries_removeObject]
  constructor
  · rintro ⟨k, hmem, hk⟩
    exact ⟨⟨k, hmem⟩, hb.keyed _ hmem ▸ hk⟩
  · rintro ⟨⟨k, hmem⟩, hk⟩
    have heq : k = r.key := hb.keyed _ hmem
    exact ⟨k, hmem, heq ▸ hk⟩

theorem lasts_removeClaim (hn : b.Lasts n) (hne : n ≠ .claim c) :
    (b.removeObject (.template .persistentVolumeClaim c)).Lasts n := by
  obtain ⟨r, hr, hhosts, hkey, hmeets⟩ := hn
  refine ⟨r, hb.mem_values_removeObject.2 ⟨hr, fun heq => ?_⟩, hhosts, hkey, hmeets⟩
  exact hne (Resource.eq_claim_of_meets heq hmeets)

/-- A claim that nothing refers to can go. -/
theorem removeClaim (hunused : ∀ r ∈ b.objects.values, .claim c ∉ r.needs) :
    (b.removeObject (.template .persistentVolumeClaim c)).Adaptable storage where
  sound r hr := hb.sound r (hb.mem_values_removeObject.1 hr).1
  closed r hr n hn := by
    have hmem := (hb.mem_values_removeObject.1 hr).1
    obtain ⟨r', hr', hmeets⟩ := hb.closed r hmem n hn
    refine ⟨r', hb.mem_values_removeObject.2 ⟨hr', fun heq => ?_⟩, hmeets⟩
    exact hunused r hmem (Resource.eq_claim_of_meets heq hmeets ▸ hn)
  keyed e he := hb.keyed e (mem_entries_removeObject.1 he).1
  lasting r hr hhosts n hn := by
    have hmem := (hb.mem_values_removeObject.1 hr).1
    refine (hb.lasting r hmem hhosts n hn).imp_right fun h => hb.lasts_removeClaim h ?_
    rintro rfl
    exact hunused r hmem hn
  replaced := hb.replaced
  stays := hb.stays
  shared s hs r hr := hb.shared s hs r (hb.mem_values_removeObject.1 hr).1
  environment s hs := hb.lasts_removeClaim (hb.environment s hs) (by simp)
  credentials o ho n hn := by
    refine hb.lasts_removeClaim (hb.credentials o ho n hn) ?_
    rintro rfl
    simp [ExternalStorage.credentials] at hn

end Adaptable

end Bundle

namespace ExternalStorage

variable {storage : Option ObjectStorageOptions} {b : Bundle}
variable (o : ObjectStorageOptions) (s : SharedStorage) (r : Resource)

/-! ## One workload -/

/-- What a workload without the volume refers to instead. -/
def envNeeds : List Need := (env o s).flatMap (·.needs)

theorem envNeeds_eq :
    envNeeds o s =
      .configEntry s.environmentConfigMap storageKey ::
        credentials o ++
        [.configEntry s.environmentConfigMap bucketKey,
          .configEntry s.environmentConfigMap regionKey] :=
  rfl

/-- The workload with its pods and its hook moved. -/
def moved : Resource := (moveStrategy o s r).modifyPodSpec (movePod o s)

theorem hookPod?_modifyHookPod (f : HookPod → HookPod) (strategy : RolloutStrategy) :
    (strategy.modifyHookPod f).hookPod? = strategy.hookPod?.map f := by
  rcases strategy with ⟨_, _ | ⟨_, _, _, _, _, _ | ⟨_, _ | _⟩⟩⟩ <;> rfl

theorem hook?_moved : (moved o s r).hook? = r.hook?.map (moveHook o s) := by
  unfold moved
  rw [Resource.hook?_modifyPodSpec]
  cases r with
  | deploymentConfig d => exact hookPod?_modifyHookPod _ _
  | _ => rfl

theorem podSpec?_moved : (moved o s r).podSpec? = r.podSpec?.map (movePod o s) := by
  unfold moved
  rw [Resource.podSpec?_modifyPodSpec]
  cases r <;> rfl

theorem volumes_moved : (moved o s r).volumes = r.volumes.filter (·.name ≠ s.volume) := by
  unfold Resource.volumes
  rw [podSpec?_moved]
  rcases r.podSpec? with _ | ⟨_, _, _, _, _ | _⟩ <;> rfl

theorem hookVolumes_moved :
    (moved o s r).hookVolumes = r.hookVolumes.filter (· ≠ s.volume) := by
  unfold Resource.hookVolumes
  rw [hook?_moved]
  cases r.hook? <;> rfl

variable {o s r}

theorem exists_container_of_mem_moved {c : Container} (hc : c ∈ (moved o s r).containers) :
    ∃ c' ∈ r.containers, c = (unmount s c').addEnv (env o s) ∨ c = unmount s c' := by
  unfold Resource.containers Resource.mainContainers Resource.initContainers at hc ⊢
  rw [podSpec?_moved] at hc
  cases hspec : r.podSpec? with
  | none => simp [hspec] at hc
  | some p =>
      rw [hspec] at hc
      rcases List.mem_append.1 hc with hmain | hinit
      · obtain ⟨c', hc', rfl⟩ := List.mem_map.1 hmain
        exact ⟨c', List.mem_append_left _ hc', .inl rfl⟩
      · cases hinits : p.initContainers with
        | none => simp [movePod, hinits] at hinit
        | some inits =>
            simp only [movePod, Option.map_some, Option.bind_some, hinits,
              Option.getD_some] at hinit
            obtain ⟨c', hc', rfl⟩ := List.mem_map.1 hinit
            exact ⟨c', List.mem_append_right _ (by simpa [hinits] using hc'), .inr rfl⟩

theorem mem_mounts_moved {m : String} (hm : m ∈ (moved o s r).mounts) :
    m ∈ r.mounts ∧ m ≠ s.volume := by
  obtain ⟨c, hc, hm⟩ := List.mem_flatMap.1 hm
  obtain ⟨c', hc', hcases⟩ := exists_container_of_mem_moved hc
  have hmounts : c.volumeMounts = c'.volumeMounts.map (·.filter (·.name ≠ s.volume)) := by
    rcases hcases with rfl | rfl <;> rfl
  rw [hmounts] at hm
  cases hnone : c'.volumeMounts with
  | none => simp [hnone] at hm
  | some mounts =>
      rw [hnone] at hm
      obtain ⟨mount, hmount, rfl⟩ := List.mem_map.1 hm
      obtain ⟨hmem, hne⟩ := List.mem_filter.1 hmount
      refine ⟨List.mem_flatMap.2 ⟨c', hc', ?_⟩, of_decide_eq_true hne⟩
      rw [hnone]
      exact List.mem_map_of_mem hmem

theorem mem_env_moved {v : EnvVar} (hv : v ∈ (moved o s r).env) : v ∈ r.env ∨ v ∈ env o s := by
  rcases List.mem_append.1 hv with hv | hv
  · obtain ⟨c, hc, hv⟩ := List.mem_flatMap.1 hv
    obtain ⟨c', hc', rfl | rfl⟩ := exists_container_of_mem_moved hc
    · rcases List.mem_append.1 hv with hv | hv
      · exact .inl (List.mem_append_left _ (List.mem_flatMap.2 ⟨c', hc', hv⟩))
      · exact .inr hv
    · exact .inl (List.mem_append_left _ (List.mem_flatMap.2 ⟨c', hc', hv⟩))
  · rw [hook?_moved] at hv
    cases hhook : r.hook? with
    | none => simp [hhook] at hv
    | some hook =>
        rw [hhook] at hv
        rcases List.mem_append.1 hv with hv | hv
        · refine .inl (List.mem_append_right _ ?_)
          rw [hhook]
          exact hv
        · exact .inr hv

theorem keeps_moved : r.Keeps (moved o s r) := by
  have hstrategy : r.Keeps (moveStrategy o s r) := by
    cases r <;> exact ⟨rfl, rfl, List.Subset.refl _, rfl, rfl, rfl, rfl⟩
  exact hstrategy.trans (Resource.keeps_modifyPodSpec
    (fun c => (unmount s c).addEnv (env o s)) (fun _ => rfl) (fun _ => rfl) _)

/-- A moved workload refers to the settings and the credentials, and otherwise to what it did. -/
theorem extends_moved : r.Extends (envNeeds o s) (moved o s r) where
  toKeeps := keeps_moved
  sound hr := by
    have hbehind : ∀ m, m ∈ r.volumes.map (·.name) → m ≠ s.volume →
        m ∈ (moved o s r).volumes.map (·.name) := by
      intro m hm hne
      obtain ⟨v, hv, rfl⟩ := List.mem_map.1 hm
      rw [volumes_moved]
      exact List.mem_map_of_mem (List.mem_filter.2 ⟨hv, decide_eq_true hne⟩)
    refine ⟨keeps_moved.hasLabel hr.app, keeps_moved.hasLabel hr.component, ?_, ?_⟩
    · intro m hm
      obtain ⟨hm, hne⟩ := mem_mounts_moved hm
      exact hbehind m (hr.mounts hm) hne
    · intro m hm
      rw [hookVolumes_moved] at hm
      obtain ⟨hm, hne⟩ := List.mem_filter.1 hm
      exact hbehind m (hr.hookVolumes hm) (of_decide_eq_true hne)
  needs n hn := by
    have htraffic : (moved o s r).traffic = r.traffic := keeps_moved.traffic
    simp only [Resource.needs, htraffic, volumes_moved, List.mem_append, List.mem_flatMap] at hn ⊢
    obtain (⟨v, hv, hn⟩ | ⟨v, hv, hn⟩) | hn := hn
    · rcases mem_env_moved hv with hv | hv
      · exact .inl (.inl (.inl ⟨v, hv, hn⟩))
      · exact .inr (List.mem_flatMap.2 ⟨v, hv, hn⟩)
    · exact .inl (.inl (.inr ⟨v, (List.mem_filter.1 hv).1, hn⟩))
    · exact .inl (.inr hn)
  volumes := by
    rw [volumes_moved]
    exact List.filter_sublist.subset

theorem extends_moveWorkload : r.Extends (envNeeds o s) (moveWorkload o s r) := by
  unfold moveWorkload
  split
  · exact extends_moved
  · exact .refl r

/-- A workload that shares the volume does not refer to the claim once it is moved. -/
theorem claim_notMem_needs_moveWorkload
    (hshared : ∀ v ∈ r.volumes, v.persistentVolumeClaim = some s.claim →
      v.name = s.volume ∧ s.workloads.contains r.name) :
    .claim s.claim ∉ (moveWorkload o s r).needs := by
  intro hmem
  obtain ⟨v, hv, hclaim⟩ := Resource.claim_mem_needs_iff.1 hmem
  obtain ⟨hname, hlisted⟩ := hshared v (extends_moveWorkload.volumes hv) hclaim
  have hworkload : r.isWorkload := by
    cases r <;> first | rfl | cases extends_moveWorkload.volumes hv
  have hmoved : moveWorkload o s r = moved o s r := if_pos ⟨hworkload, hlisted⟩
  rw [hmoved, volumes_moved] at hv
  exact of_decide_eq_true (List.mem_filter.1 hv).2 hname

/-! ## The whole bundle -/

theorem extends_writeSettings (r : Resource) : r.Extends [] (writeSettings o r) := by
  cases r with
  | configMap c =>
      have hfields : (Resource.configMap c).fields ⊆ (writeSettings o (.configMap c)).fields :=
        fun k hk => SortedMap.mem_keys_insertMany.2 (.inl hk)
      exact Resource.Keeps.extends ⟨rfl, rfl, hfields, rfl, rfl, rfl, rfl⟩ rfl rfl rfl rfl
  | _ => exact .refl _

/-- The settings can be read once they are written. -/
theorem fields_writeSettings {key : String} (hkind : r.kind = .configMap)
    (hkey : key ∈ [storageKey, bucketKey, regionKey]) : key ∈ (writeSettings o r).fields := by
  cases r with
  | configMap c => exact SortedMap.mem_keys_insertMany.2 (.inr hkey)
  | _ => cases hkind

/-- The bundle with the settings of a storage written. -/
def configured (o : ObjectStorageOptions) (s : SharedStorage) (b : Bundle) : Bundle :=
  b.modifyObject (.template .configMap s.environmentConfigMap) (writeSettings o)

/-- The bundle with the settings written and the workloads moved. -/
def relieved (o : ObjectStorageOptions) (s : SharedStorage) (b : Bundle) : Bundle :=
  (configured o s b).mapObjects (moveWorkload o s)

theorem adaptable_configured (hb : b.Adaptable storage) :
    (configured o s b).Adaptable storage :=
  (Bundle.Extends.modifyObject extends_writeSettings b _).adaptable hb (by simp)

theorem extends_dropParameter (s : SharedStorage) (b : Bundle) :
    b.Extends [] (dropParameter s b) := by
  unfold dropParameter
  split <;> exact .of_objects_eq rfl rfl

section Replace

variable (hb : b.Adaptable storage) (hs : s ∈ b.capabilities.sharedStorage)
include hb hs

theorem hasEnvironment_of_adaptable : hasEnvironment s b := by
  obtain ⟨r, hr, -, -, hkey⟩ := hb.environment s hs
  obtain ⟨k, hmem⟩ := OrderedMap.mem_values.1 hr
  have heq : k = .template .configMap s.environmentConfigMap := (hb.keyed _ hmem).trans hkey
  subst heq
  obtain ⟨u, hget, hu⟩ := OrderedMap.exists_get?_of_mem hmem
  have hkind : u.kind = .configMap := (congrArg ObjectKey.kind (hb.keyed _ hu)).symm
  unfold hasEnvironment Bundle.object?
  rw [hget]
  cases u <;> first | rfl | cases hkind

theorem lasts_setting {key : String} (hkey : key ∈ [storageKey, bucketKey, regionKey]) :
    (configured o s b).Lasts (.configEntry s.environmentConfigMap key) := by
  obtain ⟨r, hr, hhosts, hne, hmeets⟩ := hb.environment s hs
  obtain ⟨k, hmem⟩ := OrderedMap.mem_values.1 hr
  have heq : k = .template .configMap s.environmentConfigMap := (hb.keyed _ hmem).trans hmeets
  have hwritten : (writeSettings o r).key = r.key := (extends_writeSettings r).key
  refine ⟨writeSettings o r, ?_, ?_, ?_, hwritten.trans hmeets, ?_⟩
  · exact OrderedMap.mem_values.2 ⟨k, List.mem_map.2 ⟨(k, r), hmem, if_pos heq⟩⟩
  · rw [hwritten]
    exact hhosts
  · rw [hwritten]
    exact hne
  · exact fields_writeSettings (congrArg ObjectKey.kind hmeets) hkey

theorem lasts_envNeeds (ho : o ∈ storage) : ∀ n ∈ envNeeds o s, (configured o s b).Lasts n := by
  have hsettings : ∀ key ∈ [storageKey, bucketKey, regionKey],
      (configured o s b).Lasts (.configEntry s.environmentConfigMap key) :=
    fun key hkey => lasts_setting hb hs hkey
  have hconfigured : (configured o s b).Adaptable storage := adaptable_configured hb
  have hcredentials := hconfigured.credentials o ho
  simp only [List.forall_mem_cons] at hsettings
  obtain ⟨hstorage, hbucket, hregion, -⟩ := hsettings
  intro n hn
  rw [envNeeds_eq] at hn
  rcases List.mem_append.1 hn with hn | hn
  · rcases List.mem_cons.1 hn with rfl | hn
    · exact hstorage
    · exact hcredentials n hn
  · simp only [List.mem_cons, List.not_mem_nil, or_false] at hn
    rcases hn with rfl | rfl
    · exact hbucket
    · exact hregion

theorem adaptable_relieved (ho : o ∈ storage) : (relieved o s b).Adaptable storage :=
  (Bundle.Extends.mapObjects (fun _ => extends_moveWorkload) _).adaptable
    (adaptable_configured hb) (lasts_envNeeds hb hs ho)

/-- Once the workloads have moved, nothing refers to the claim. -/
theorem claim_unused (r : Resource) (hr : r ∈ (relieved o s b).objects.values) :
    .claim s.claim ∉ r.needs := by
  obtain ⟨u, hu, rfl⟩ := OrderedMap.mem_values_mapValues.1 hr
  exact claim_notMem_needs_moveWorkload
    ((adaptable_configured hb).shared s hs u hu)

/-- Replacing a declared storage succeeds and leaves a bundle adaptable. -/
theorem adaptable_replace (ho : o ∈ storage) :
    ∃ b', replace o b s = .ok b' ∧ b'.capabilities = b.capabilities ∧ b'.Adaptable storage := by
  have hremoved := (adaptable_relieved hb hs ho).removeClaim (claim_unused hb hs)
  refine ⟨_, if_pos (hasEnvironment_of_adaptable hb hs), ?_, ?_⟩
  · exact (extends_dropParameter s _).capabilities
  · exact (extends_dropParameter s _).adaptable hremoved (by simp)

end Replace

theorem adaptable_replaceAll {storages : List SharedStorage} (hb : b.Adaptable storage)
    (ho : o ∈ storage) (hstorages : storages ⊆ b.capabilities.sharedStorage) :
    ∃ b', replaceAll o storages b = .ok b' ∧ b'.Adaptable storage := by
  induction storages generalizing b with
  | nil => exact ⟨b, rfl, hb⟩
  | cons s storages ih =>
      obtain ⟨hs, hrest⟩ := List.cons_subset.1 hstorages
      obtain ⟨b₁, hreplace, hcapabilities, hb₁⟩ := adaptable_replace hb hs ho
      obtain ⟨b₂, hall, hb₂⟩ := ih hb₁ (hcapabilities ▸ hrest)
      refine ⟨b₂, ?_, hb₂⟩
      rw [replaceAll, hreplace]
      exact hall

/-- Moving the files out of an adaptable bundle with the credentials for it succeeds and leaves
the bundle adaptable. -/
theorem adaptable_run (hb : b.Adaptable storage) (ho : o ∈ storage) :
    ∃ b', (transform o).run b = .ok b' ∧ b'.Adaptable storage :=
  adaptable_replaceAll hb ho (List.Subset.refl _)

end ExternalStorage

end ApiPlatform
