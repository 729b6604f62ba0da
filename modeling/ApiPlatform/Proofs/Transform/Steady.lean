import ApiPlatform.Proofs.Transform.Accounted
/-!
# Transforms with steady options

A transform writes its options into objects that stay.  If the options refer to parameters that
stay as well, then each of the four transforms runs to its end on an accounted bundle and leaves it
accounted, and so does a chain of them.
-/

namespace ApiPlatform

open ApiPlatform.Bundle (Step Plan runSteps runSteps_append)
open Catalog (HighAvailabilityOptions ObjectStorageOptions externalConnection)
open Placeholder (Plain Fits plain_of_isPlain)

variable {steady declared : String → Prop} {b : Bundle} {s : Step}

theorem Resource.Fillable.of_key_eq {r r' : Resource} (hr : r.Fillable declared)
    (hkey : r'.key = r.key) (htexts : r'.toJson.Every Plain (Fits declared)) :
    r'.Fillable declared where
  texts := htexts
  name name hname := by
    have hname' : name = r.metadata.name.getD "" := by
      have hsame : r'.metadata.name.getD "" = r.metadata.name.getD "" :=
        congrArg ObjectKey.name hkey
      rwa [Option.mem_def.1 hname] at hsame
    cases hold : r.metadata.name with
    | none =>
        rw [hname', hold]
        exact plain_of_isPlain (by decide)
    | some old =>
        rw [hname', hold]
        exact hr.name old hold
  «namespace» := by
    have hsame : r'.metadata.namespace = r.metadata.namespace :=
      congrArg ObjectKey.namespace hkey
    rw [hsame]
    exact hr.namespace

/-! ## Product images and evaluation -/

namespace Productized

variable {o : ProductizedOptions}

theorem fillable_redirectStream (himage : ∀ image, Plain (o.image image)) {c : Capabilities}
    {declared : String → Prop} {r : Resource} (hr : r.Fillable declared) :
    (redirectStream o c r).Fillable declared :=
  hr.of_key_eq (extends_redirectStream o c r).key (every_redirectStream himage hr.texts)

theorem safe_steps (himage : ∀ image, Plain (o.image image)) (c : Capabilities) :
    ∀ s ∈ steps o c, s.Safe steady c := by
  intro s hs
  rcases List.mem_append.1 hs with hs | hs
  · obtain ⟨e, -, rfl⟩ := List.mem_map.1 hs
    intro text htext
    obtain rfl := Option.some.inj htext
    exact himage e.2
  · obtain rfl := List.mem_singleton.1 hs
    intro k r
    exact ⟨(extends_redirectStream o c r).key, fun _ _ hr => fillable_redirectStream himage hr⟩

theorem accounted_run (himage : ∀ image, Plain (o.image image)) (hb : b.Accounted steady) :
    ∃ b', (transform o).run b = .ok b' ∧ b'.Accounted steady :=
  ⟨_, run_eq o b, hb.runSteps (safe_steps himage b.capabilities)⟩

end Productized

namespace Evaluation

theorem safe_steps (c : Capabilities) : ∀ s ∈ steps, s.Safe steady c := by
  intro s hs
  obtain rfl := List.mem_singleton.1 hs
  intro k r
  have hkey := Resource.key_modifyPodSpec relaxPod r
  exact ⟨hkey, fun declared _ hr => hr.of_key_eq hkey
    (Resource.every_modifyPodSpec (fun p => every_relaxPod) hr.texts)⟩

theorem accounted_run (hb : b.Accounted steady) :
    ∃ b', transform.run b = .ok b' ∧ b'.Accounted steady :=
  ⟨_, run_eq b, hb.runSteps (safe_steps b.capabilities)⟩

end Evaluation

/-! ## External databases -/

namespace Catalog

/-- Options that refer to steady names only. -/
structure HighAvailabilityOptions.Steady (steady : String → Prop) (o : HighAvailabilityOptions) :
    Prop where
  appLabel : Fits steady o.appLabel
  url : ∀ endpoint, Fits steady (o.url endpoint)

theorem plain_connectionWords :
    ∀ word ∈ ["apiVersion", "v1", "kind", "Secret", "metadata", "labels", "name", "stringData",
      "type", "Opaque", "system", databaseSecret, databaseUrlField, Labels.appKey,
      Labels.componentKey], Plain word :=
  Placeholder.forall_plain (by decide)

theorem fillable_externalConnection {o : HighAvailabilityOptions} (ho : o.Steady steady) :
    (externalConnection o).Fillable steady := by
  have hwords := plain_connectionWords
  simp only [List.forall_mem_cons] at hwords
  have hlabels : ∀ e ∈ (Labels.component o.appLabel "system").entries,
      Plain e.1 ∧ Fits steady e.2 := by
    intro e he
    have he := SortedMap.mem_of_mem_ofList he
    simp only [List.mem_cons, List.not_mem_nil, or_false] at he
    rcases he with rfl | rfl <;> simp [hwords, ho.appLabel, Plain.fits]
  have haddress : ∀ e ∈ (SortedMap.ofList [(databaseUrlField, o.systemDatabaseUrl)]).entries,
      Plain e.1 ∧ Fits steady e.2 := by
    intro e he
    obtain rfl := List.mem_singleton.1 (SortedMap.mem_of_mem_ofList he)
    exact ⟨by simp [hwords], ho.url .systemDatabase⟩
  constructor
  case texts =>
    simpa [externalConnection, secret, named, Secret.codec, ObjectMeta.codec, Labels.codec, hwords,
      Plain.fits] using And.intro (fun key text => hlabels (key, text))
        (fun key text => haddress (key, text))
  case name =>
    intro name hname
    obtain rfl := Option.some.inj hname
    simp [hwords]
  case «namespace» =>
    intro ns hns
    cases hns

end Catalog

namespace HighAvailability

variable {o : HighAvailabilityOptions}

theorem replacements_eq {c : Capabilities} (hc : c.Tidy) :
    replacements o c = [externalConnection o] :=
  List.filter_cons_of_pos (decide_eq_true ⟨rfl, hc.replaced⟩)

theorem safe_removals {c : Capabilities} (hc : c.Tidy) :
    ∀ s ∈ c.externalDatabaseObjects.keys.map Step.remove, s.Safe steady c := by
  intro s hs
  obtain ⟨key, hkey, rfl⟩ := List.mem_map.1 hs
  rintro storage hstorage rfl
  exact (hc.environment storage hstorage).2 hkey

theorem safe_addressSteps {c : Capabilities} (ho : o.Steady steady) (hc : c.Tidy) :
    ∀ s ∈ (.change fun _ => scale o.replicas c) :: addressSteps o c, s.Safe steady c := by
  intro s hs
  rcases List.mem_cons.1 hs with rfl | hs
  · intro k r
    have hkey := (extends_scale o.replicas c r).key
    exact ⟨hkey, fun declared _ hr => hr.of_key_eq hkey (every_scale hr.texts)⟩
  · obtain ⟨e, he, hs⟩ := List.mem_flatMap.1 hs
    obtain ⟨f, hf, rfl⟩ := List.mem_map.1 hs
    intro k r
    dsimp only
    split
    · have hkey := (extends_writeEntry f.field (o.url e.1) r).key
      refine ⟨hkey, fun declared hsteady hr => hr.of_key_eq hkey ?_⟩
      exact every_writeEntry (hc.fields e he f hf) ((ho.url e.1).mono hsteady) hr.texts
    · exact ⟨rfl, fun _ _ hr => hr⟩

/-- The bundle with the databases gone and the connection replaced. -/
def relocated (o : HighAvailabilityOptions) (b : Bundle) : Bundle :=
  (dropDatabases b).upsertObject (externalConnection o)

theorem capabilities_relocated (o : HighAvailabilityOptions) (b : Bundle) :
    (relocated o b).capabilities = b.capabilities :=
  capabilities_dropDatabases

theorem accounted_relocated (ho : o.Steady steady) (hb : b.Accounted steady) :
    (relocated o b).Accounted steady := by
  have hdropped : (dropDatabases b).Accounted steady := by
    rw [← run_removals rfl]
    exact hb.runSteps (safe_removals hb.tidy)
  have hput : (Step.put (externalConnection o)).Safe steady (dropDatabases b).capabilities :=
    ⟨nofun, Catalog.fillable_externalConnection ho⟩
  exact hdropped.run hput

/-- Only the new connection could refer to a parameter that leaves, and it does not. -/
theorem fillable_relocated (ho : o.Steady steady) (hb : b.Accounted steady) {name : String}
    (hname : name ∈ b.capabilities.externalDatabaseParameters.keys) {e : ObjectKey × Resource}
    (he : e ∈ (relocated o b).objects.entries) (hgrants : b.capabilities.Grants e.1 name) :
    e.2.Fillable steady := by
  have hnew : (Bundle.connectionKey, externalConnection o) ∈ (relocated o b).objects.entries :=
    OrderedMap.mem_insertIn_self _ _ _
  have hconnection : e.1 = Bundle.connectionKey → e.2.Fillable steady := by
    intro hkey
    have heq : e = (Bundle.connectionKey, externalConnection o) :=
      List.inj_on_of_nodup_map (accounted_relocated ho hb).distinct he hnew hkey
    rw [heq]
    exact Catalog.fillable_externalConnection ho
  rcases OrderedMap.eq_or_mem_of_mem_insertIn he with rfl | hold
  · exact hconnection rfl
  · have hhosts := (mem_entries_dropDatabases.1 hold).2
    exact hconnection ((hgrants.1 hname).resolve_left hhosts)

theorem accounted_run (ho : o.Steady steady) (hb : b.Accounted steady) :
    ∃ b', (transform o).run b = .ok b' ∧ b'.Accounted steady := by
  have hreplaced : runSteps ((replacements o b.capabilities).map .put)
      (runSteps (b.capabilities.externalDatabaseObjects.keys.map .remove) b) = relocated o b := by
    rw [replacements_eq hb.tidy, run_removals rfl]
    rfl
  have hparameters : (runSteps (b.capabilities.externalDatabaseParameters.keys.map
      .removeParameter) (relocated o b)).Accounted steady := by
    refine (accounted_relocated ho hb).removeParameters ?_ ?_ <;> rw [capabilities_relocated]
    · exact fun name hname hretained => hretained.1 hname
    · exact fun name hname e he hgrants => fillable_relocated ho hb hname he hgrants
  refine ⟨runSteps (steps o b.capabilities) b, run_eq o b, ?_⟩
  rw [steps, runSteps_append, runSteps_append, runSteps_append, hreplaced]
  refine hparameters.runSteps ?_
  rw [Bundle.capabilities_runSteps, capabilities_relocated]
  exact safe_addressSteps ho hb.tidy

end HighAvailability

/-! ## External storage -/

/-- Options that refer to steady names only. -/
structure Catalog.ObjectStorageOptions.Steady (steady : String → Prop) (o : ObjectStorageOptions) :
    Prop where
  storage : Fits steady o.fileUploadStorage
  bucket : Fits steady o.bucket
  region : Fits steady o.region
  secret : Fits steady o.credentialsSecret

namespace ExternalStorage

variable {o : ObjectStorageOptions} {storage : SharedStorage}

theorem safe_configure (ho : o.Steady steady) (c : Capabilities) :
    (Step.changeAt (.template .configMap storage.environmentConfigMap) (writeSettings o)).Safe
      steady c := by
  intro k r
  dsimp only
  split
  · have hkey := (extends_writeSettings (o := o) r).key
    refine ⟨hkey, fun declared hsteady hr => hr.of_key_eq hkey ?_⟩
    exact every_writeSettings (ho.storage.mono hsteady) (ho.bucket.mono hsteady)
      (ho.region.mono hsteady) hr.texts
  · exact ⟨rfl, fun _ _ hr => hr⟩

theorem safe_move (ho : o.Steady steady) (hplain : Plain storage.environmentConfigMap)
    (c : Capabilities) : (Step.change fun _ => moveWorkload o storage).Safe steady c := by
  intro k r
  have hkey := (extends_moveWorkload (o := o) (s := storage) (r := r)).key
  refine ⟨hkey, fun declared hsteady hr => hr.of_key_eq hkey ?_⟩
  exact every_moveWorkload (every_env (ho.secret.mono hsteady) hplain) hr.texts

theorem safe_unclaim (c : Capabilities) :
    (Step.remove (.template .persistentVolumeClaim storage.claim)).Safe steady c := by
  intro s _ heq
  cases congrArg ObjectKey.kind heq

/-- The steps on objects by which a storage is replaced; its parameter leaves behind them. -/
def objectSteps (o : ObjectStorageOptions) (storage : SharedStorage) : List Step :=
  [.changeAt (.template .configMap storage.environmentConfigMap) (writeSettings o),
    .change fun _ => moveWorkload o storage,
    .remove (.template .persistentVolumeClaim storage.claim)]

theorem accounted_storageSteps (ho : o.Steady steady) (hb : b.Accounted steady)
    (hstorage : storage ∈ b.capabilities.sharedStorage) :
    (runSteps (storageSteps o storage) b).Accounted steady := by
  have hplain := (hb.tidy.environment storage hstorage).1
  have hmoved : (runSteps (objectSteps o storage) b).Accounted steady := by
    refine hb.runSteps ?_
    simp only [objectSteps, List.forall_mem_cons]
    exact ⟨safe_configure ho _, safe_move ho hplain _, safe_unclaim _, List.forall_mem_nil _⟩
  have hsplit : storageSteps o storage =
      objectSteps o storage ++ storage.parameter.toList.map .removeParameter := rfl
  rw [hsplit, runSteps_append]
  refine hmoved.removeParameters ?_ ?_ <;> rw [Bundle.capabilities_runSteps]
  · intro name hname hretains
    exact hretains.2 storage hstorage (Option.mem_toList.1 hname)
  · -- Only the claim could refer to the parameter, and it is gone.
    intro name hname e he hgrants
    have hclaim := hgrants.2 storage hstorage (Option.mem_toList.1 hname)
    exact absurd hclaim (of_decide_eq_true (List.mem_filter.1 he).2)

theorem accounted_steps (ho : o.Steady steady) {storages : List SharedStorage}
    (hb : b.Accounted steady) (hstorages : storages ⊆ b.capabilities.sharedStorage) :
    (runSteps (storages.flatMap (storageSteps o)) b).Accounted steady := by
  induction storages generalizing b with
  | nil => exact hb
  | cons storage storages ih =>
      obtain ⟨hstorage, hrest⟩ := List.cons_subset.1 hstorages
      rw [List.flatMap_cons, runSteps_append]
      refine ih (accounted_storageSteps ho hb hstorage) ?_
      rw [Bundle.capabilities_runSteps]
      exact hrest

theorem accounted_run (ho : o.Steady steady) (hb : b.Accounted steady) :
    ∃ b', (transform o).run b = .ok b' ∧ b'.Accounted steady := by
  have hnone : firstLacking b b.capabilities.sharedStorage = none := by
    refine List.find?_eq_none.2 fun storage hstorage => ?_
    simpa using hasEnvironment_iff.2 (hb.environment storage hstorage)
  refine ⟨_, ?_, accounted_steps ho hb (List.Subset.refl _)⟩
  rw [run_eq]
  simp only [Plan.run, plan, hnone, Option.map_none]
  rfl

end ExternalStorage

/-! ## Chains -/

/-- The transforms that variants are made of, with options that refer to steady names only. -/
inductive Adjustment (steady : String → Prop) : Transform → Prop where
  | productized {o : ProductizedOptions} (himage : ∀ image, Plain (o.image image)) :
    Adjustment steady (Productized.transform o)
  | highAvailability {o : HighAvailabilityOptions} (ho : o.Steady steady) :
    Adjustment steady (HighAvailability.transform o)
  | externalStorage {o : ObjectStorageOptions} (ho : o.Steady steady) :
    Adjustment steady (ExternalStorage.transform o)
  | evaluation : Adjustment steady Evaluation.transform

theorem Adjustment.accounted_run {t : Transform} (ht : Adjustment steady t)
    (hb : b.Accounted steady) : ∃ b', t.run b = .ok b' ∧ b'.Accounted steady := by
  cases ht with
  | productized himage => exact Productized.accounted_run himage hb
  | highAvailability ho => exact HighAvailability.accounted_run ho hb
  | externalStorage ho => exact ExternalStorage.accounted_run ho hb
  | evaluation => exact Evaluation.accounted_run hb

/-- Whatever adjustments are chained, the chain runs to its end and leaves a bundle accounted. -/
theorem TransformChain.accounted_apply {ts : List Transform}
    (hts : ∀ t ∈ ts, Adjustment steady t) (hb : b.Accounted steady) :
    ∃ b', (ofList ts).apply b = .ok b' ∧ b'.Accounted steady :=
  exists_apply (fun t ht _ hb => (hts t ht).accounted_run hb) hb

end ApiPlatform
