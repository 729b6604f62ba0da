import ApiPlatform.Proofs.Transform.Entries
/-!
# What external storage makes of a bundle

Several storages may list one workload and keep their settings in one ConfigMap.  What they do to an
object one after the other is what a single pass over the storages that concern it does
(`foldl_moved`, `Configured.trans`).  `Effect` says what becomes of the bundle as a whole.
-/

namespace ApiPlatform

open ApiPlatform.Bundle (Step revise revise_append runSteps)
open Catalog (ObjectStorageOptions)

theorem Container.addEnv_addEnv (container : Container) (vars vars' : List EnvVar) :
    (container.addEnv vars).addEnv vars' = container.addEnv (vars ++ vars') :=
  congrArg (fun env => { container with env := some env }) (List.append_assoc ..)

namespace Resource

/-- Changes the pod that runs before a rollout; nothing changes where there is no such pod. -/
def modifyHook (f : HookPod → HookPod) : Resource → Resource
  | .deploymentConfig d =>
    .deploymentConfig { d with spec := { d.spec with strategy := d.spec.strategy.modifyHookPod f } }
  | r => r

variable {f g : HookPod → HookPod} {p q : PodSpec → PodSpec}

theorem modifyHook_modifyHook (r : Resource) :
    (r.modifyHook g).modifyHook f = r.modifyHook (f ∘ g) := by
  cases r with
  | deploymentConfig d =>
      obtain ⟨metadata, replicas, selector, strategy, triggers, template⟩ := d
      rcases strategy with ⟨_, _ | ⟨_, _, _, _, _, _ | ⟨_, _ | _⟩⟩⟩ <;> rfl
  | _ => rfl

theorem modifyHook_modifyPodSpec (r : Resource) :
    (r.modifyPodSpec p).modifyHook f = (r.modifyHook f).modifyPodSpec p := by
  cases r <;> rfl

end Resource

namespace ExternalStorage

variable {o : ObjectStorageOptions} {c : Capabilities} {b b' : Bundle} {key : ObjectKey}
variable {s : SharedStorage} {ss : List SharedStorage} {r r' : Resource} {m m' : ConfigMap}

/-! ## Workloads -/

/-- The storages that list the workloads of a name, in the order of their declaration. -/
def sharing (c : Capabilities) (name : String) : List SharedStorage :=
  c.sharedStorage.filter (·.workloads.contains name)

/-- The container without mounts of the volumes. -/
def unmounted (ss : List SharedStorage) (container : Container) : Container :=
  { container with
    volumeMounts := container.volumeMounts.map (·.filter (·.name ∉ ss.map (·.volume))) }

/-- The pod without the volumes and with the variables of every storage. -/
def movedPod (o : ObjectStorageOptions) (ss : List SharedStorage) (p : PodSpec) : PodSpec :=
  { p with
    volumes := p.volumes.map (·.filter (·.name ∉ ss.map (·.volume)))
    containers := p.containers.map fun container =>
      (unmounted ss container).addEnv (ss.flatMap (env o))
    initContainers := p.initContainers.map (·.map (unmounted ss)) }

/-- The hook without the volumes and with the variables of every storage. -/
def movedHook (o : ObjectStorageOptions) (ss : List SharedStorage) (h : HookPod) : HookPod :=
  { h with
    volumes := h.volumes.filter (· ∉ ss.map (·.volume))
    env := h.env ++ ss.flatMap (env o) }

/-- The workload with its hook and its pods moved. -/
def movedWorkload (o : ObjectStorageOptions) (ss : List SharedStorage) (r : Resource) : Resource :=
  (r.modifyHook (movedHook o ss)).modifyPodSpec (movedPod o ss)

theorem filter_cons_volume {α : Type} (name : α → String) (xs : List α) :
    xs.filter (name · ∉ (s :: ss).map (·.volume)) =
      (xs.filter (name · ≠ s.volume)).filter (name · ∉ ss.map (·.volume)) := by
  rw [List.filter_filter]
  refine List.filter_congr fun x _ => ?_
  by_cases hx : name x = s.volume <;> simp [hx]

theorem unmounted_cons (container : Container) :
    unmounted (s :: ss) container = unmounted ss (unmount s container) := by
  unfold unmounted unmount
  rw [Option.map_map]
  refine congrArg (fun mounts => { container with volumeMounts := mounts }) ?_
  exact congrArg (Option.map · _) (funext fun mounts => filter_cons_volume _ mounts)

theorem movedPod_cons (p : PodSpec) :
    movedPod o (s :: ss) p = movedPod o ss (movePod o s p) := by
  have hvolumes : p.volumes.map (·.filter (·.name ∉ (s :: ss).map (·.volume))) =
      (p.volumes.map (·.filter (·.name ≠ s.volume))).map
        (·.filter (·.name ∉ ss.map (·.volume))) := by
    rw [Option.map_map]
    exact congrArg (Option.map · _) (funext fun volumes => filter_cons_volume _ volumes)
  have hcontainer : ∀ container : Container,
      (unmounted (s :: ss) container).addEnv ((s :: ss).flatMap (env o)) =
        (unmounted ss ((unmount s container).addEnv (env o s))).addEnv (ss.flatMap (env o)) := by
    intro container
    rw [unmounted_cons, List.flatMap_cons, ← Container.addEnv_addEnv]
    rfl
  have hinit : unmounted (s :: ss) = unmounted ss ∘ unmount s := funext unmounted_cons
  unfold movedPod movePod
  rw [hvolumes, funext hcontainer, hinit]
  simp [Function.comp_def]

theorem movedHook_cons (h : HookPod) :
    movedHook o (s :: ss) h = movedHook o ss (moveHook o s h) := by
  have hvolumes : h.volumes.filter (· ∉ (s :: ss).map (·.volume)) =
      (h.volumes.filter (· ≠ s.volume)).filter (· ∉ ss.map (·.volume)) :=
    filter_cons_volume id h.volumes
  unfold movedHook moveHook
  rw [hvolumes, List.flatMap_cons, ← List.append_assoc]

theorem moved_eq (o : ObjectStorageOptions) (s : SharedStorage) (r : Resource) :
    moved o s r = (r.modifyHook (moveHook o s)).modifyPodSpec (movePod o s) := by
  cases r <;> rfl

theorem movedWorkload_cons (r : Resource) :
    movedWorkload o (s :: ss) r = movedWorkload o ss (moved o s r) := by
  have hpod : movedPod o (s :: ss) = movedPod o ss ∘ movePod o s := funext movedPod_cons
  have hhook : movedHook o (s :: ss) = movedHook o ss ∘ moveHook o s := funext movedHook_cons
  rw [moved_eq, movedWorkload, movedWorkload, Resource.modifyHook_modifyPodSpec,
    Resource.modifyHook_modifyHook, Resource.modifyPodSpec_modifyPodSpec, hpod, hhook]

theorem movedWorkload_singleton (s : SharedStorage) (r : Resource) :
    movedWorkload o [s] r = moved o s r := by
  have hunmount : unmounted [s] = unmount s := by
    funext container
    simp [unmounted, unmount]
  have hpod : movedPod o [s] = movePod o s := by
    unfold movedPod movePod
    simp [hunmount]
  have hhook : movedHook o [s] = moveHook o s := by
    unfold movedHook moveHook
    simp
  rw [moved_eq, movedWorkload, hpod, hhook]

/-- Moving a workload for one storage after the other is moving it for all of them at once. -/
theorem foldl_moved (s : SharedStorage) (ss : List SharedStorage) (r : Resource) :
    (s :: ss).foldl (fun r s => moved o s r) r = movedWorkload o (s :: ss) r := by
  induction ss generalizing s r with
  | nil => exact (movedWorkload_singleton s r).symm
  | cons t ss ih =>
      rw [List.foldl_cons, ih, ← movedWorkload_cons]

theorem name_moveWorkload (o : ObjectStorageOptions) (s : SharedStorage) (r : Resource) :
    (moveWorkload o s r).name = r.name :=
  congrArg ObjectKey.name extends_moveWorkload.key

theorem kind_moveWorkload (o : ObjectStorageOptions) (s : SharedStorage) (r : Resource) :
    (moveWorkload o s r).kind = r.kind :=
  congrArg ObjectKey.kind extends_moveWorkload.key

/-- Storages that do not list a workload leave it alone. -/
theorem foldl_moveWorkload (hr : r.isWorkload) (ss : List SharedStorage) :
    ss.foldl (fun r s => moveWorkload o s r) r =
      (ss.filter (·.workloads.contains r.name)).foldl (fun r s => moved o s r) r := by
  induction ss generalizing r with
  | nil => rfl
  | cons s ss ih =>
      have hworkload : (moveWorkload o s r).isWorkload := by
        rw [Resource.isWorkload, kind_moveWorkload]
        exact hr
      rw [List.foldl_cons, ih hworkload, name_moveWorkload]
      by_cases hs : s.workloads.contains r.name
      · have hmoved : moveWorkload o s r = moved o s r := if_pos ⟨hr, hs⟩
        rw [hmoved, List.filter_cons, if_pos hs, List.foldl_cons]
      · have hstays : moveWorkload o s r = r := if_neg fun h => hs h.2
        rw [hstays, List.filter_cons, if_neg hs]

/-! ## Settings -/

/-- The setting of a name. -/
def setting? (o : ObjectStorageOptions) (name : String) : Option String :=
  if name = storageKey then some o.fileUploadStorage
  else if name = bucketKey then some o.bucket
  else if name = regionKey then some o.region
  else none

/-- The ConfigMap `m'` is `m` with the settings of object storage. -/
structure Configured (o : ObjectStorageOptions) (m m' : ConfigMap) : Prop where
  rest : { m' with data := m.data } = m
  texts : Overwritten (setting? o) m.data m'.data

theorem Configured.unique {m'' : ConfigMap} (h : Configured o m m') (h' : Configured o m m'') :
    m' = m'' :=
  calc
    m' = { m with data := m'.data } :=
      congrArg (fun t : ConfigMap => { t with data := m'.data }) h.rest
    _ = { m with data := m''.data } := by rw [h.texts.unique h'.texts]
    _ = m'' := (congrArg (fun t : ConfigMap => { t with data := m''.data }) h'.rest).symm

/-- Settings that are there already are written anew. -/
theorem Configured.trans {m'' : ConfigMap} (h : Configured o m m') (h' : Configured o m' m'') :
    Configured o m m'' where
  rest := by
    have hrest := congrArg (fun t : ConfigMap => { t with data := m.data }) h'.rest
    exact hrest.trans h.rest
  texts := by
    have htwice : (fun k => (setting? o k).or (setting? o k)) = setting? o :=
      funext fun k => Option.or_self
    exact htwice ▸ h.texts.trans h'.texts

theorem exists_configured (o : ObjectStorageOptions) (m : ConfigMap) :
    ∃ m', writeSettings o (.configMap m) = .configMap m' ∧ Configured o m m' := by
  have hsettings : (fun k => (if k = regionKey then some o.region else none).or
      ((if k = bucketKey then some o.bucket else none).or
        (if k = storageKey then some o.fileUploadStorage else none))) = setting? o := by
    funext k
    by_cases hstorage : k = storageKey
    · subst hstorage
      simp [setting?, storageKey, bucketKey, regionKey]
    · by_cases hbucket : k = bucketKey
      · subst hbucket
        simp [setting?, storageKey, bucketKey, regionKey]
      · by_cases hregion : k = regionKey
        · subst hregion
          simp [setting?, storageKey, bucketKey, regionKey]
        · simp [setting?, hstorage, hbucket, hregion]
  refine ⟨_, rfl, rfl, ?_⟩
  rw [← hsettings]
  exact ((Overwritten.insert m.data storageKey o.fileUploadStorage).trans
    (.insert _ bucketKey o.bucket)).trans (.insert _ regionKey o.region)

/-! ## Objects that stay -/

/-- Whether the settings of a storage are kept under an identity. -/
def HoldsSettings (c : Capabilities) (key : ObjectKey) : Prop :=
  ∃ s ∈ c.sharedStorage, key = .template .configMap s.environmentConfigMap

/-- What becomes of an object that stays under its identity. -/
inductive Settled (o : ObjectStorageOptions) (c : Capabilities) (key : ObjectKey) :
    Resource → Resource → Prop
  | workload {r : Resource} (hworkload : r.isWorkload) (hshares : sharing c r.name ≠ []) :
      Settled o c key r (movedWorkload o (sharing c r.name) r)
  | settings {m m' : ConfigMap} (hkey : HoldsSettings c key) (hconfigured : Configured o m m') :
      Settled o c key (.configMap m) (.configMap m')
  | other {r : Resource} (hworkload : r.isWorkload → sharing c r.name = [])
      (hsettings : r.kind = .configMap → ¬ HoldsSettings c key) : Settled o c key r r

theorem revise_storageSteps (key : ObjectKey) (s : SharedStorage) (r : Resource) :
    revise key (storageSteps o s) r = moveWorkload o s
      (if key = .template .configMap s.environmentConfigMap then writeSettings o r else r) := by
  unfold storageSteps
  cases s.parameter <;> rfl

theorem revise_storageSteps_of_isWorkload (hr : r.isWorkload) (s : SharedStorage) :
    revise key (storageSteps o s) r = moveWorkload o s r := by
  have hconfigure : writeSettings o r = r := by
    cases r with
    | configMap m => cases hr
    | _ => rfl
  rw [revise_storageSteps, hconfigure, ite_self]

/-- A workload is moved for the storages that list it, and for no others. -/
theorem revise_steps_of_isWorkload (hr : r.isWorkload) (c : Capabilities) :
    revise key (steps o c) r =
      if sharing c r.name = [] then r else movedWorkload o (sharing c r.name) r := by
  have hmoves : ∀ (ss : List SharedStorage) {r : Resource}, r.isWorkload →
      revise key (ss.flatMap (storageSteps o)) r = ss.foldl (fun r s => moveWorkload o s r) r := by
    intro ss
    induction ss with
    | nil => exact fun _ => rfl
    | cons s ss ih =>
        intro r hr
        have hworkload : (moveWorkload o s r).isWorkload := by
          rw [Resource.isWorkload, kind_moveWorkload]
          exact hr
        rw [List.flatMap_cons, revise_append, revise_storageSteps_of_isWorkload hr, ih hworkload,
          List.foldl_cons]
  rw [steps, hmoves _ hr, foldl_moveWorkload hr]
  unfold sharing
  split
  · next hnone => rw [hnone, List.foldl_nil]
  · next hsome =>
      obtain ⟨s, ss, hshares⟩ := List.exists_cons_of_ne_nil hsome
      rw [hshares, foldl_moved]

/-- A ConfigMap gets the settings once and for all, if one of the storages keeps them there. -/
theorem exists_revise_configMap (key : ObjectKey) (ss : List SharedStorage) (m : ConfigMap) :
    ∃ m', revise key (ss.flatMap (storageSteps o)) (.configMap m) = .configMap m' ∧
      ((∃ s ∈ ss, key = .template .configMap s.environmentConfigMap) → Configured o m m') ∧
      ((∀ s ∈ ss, key ≠ .template .configMap s.environmentConfigMap) → m' = m) := by
  induction ss generalizing m with
  | nil => exact ⟨m, rfl, fun ⟨s, hs, _⟩ => absurd hs List.not_mem_nil, fun _ => rfl⟩
  | cons s ss ih =>
      by_cases hkey : key = .template .configMap s.environmentConfigMap
      · obtain ⟨m₁, hwrite, hconfigured⟩ := exists_configured o m
        obtain ⟨m', hrevise, hagain, hnever⟩ := ih m₁
        have hfirst : revise key (storageSteps o s) (.configMap m) = .configMap m₁ := by
          rw [revise_storageSteps, if_pos hkey, hwrite]
          rfl
        refine ⟨m', ?_, fun _ => ?_, fun hne => absurd hkey (hne s List.mem_cons_self)⟩
        · rw [List.flatMap_cons, revise_append, hfirst, hrevise]
        · by_cases hmore : ∃ s ∈ ss, key = .template .configMap s.environmentConfigMap
          · exact hconfigured.trans (hagain hmore)
          · obtain rfl := hnever fun t ht heq => hmore ⟨t, ht, heq⟩
            exact hconfigured
      · obtain ⟨m', hrevise, hagain, hnever⟩ := ih m
        have hfirst : revise key (storageSteps o s) (.configMap m) = .configMap m := by
          rw [revise_storageSteps, if_neg hkey]
          rfl
        refine ⟨m', ?_, fun hmore => hagain ?_, fun hne => hnever fun t ht => ?_⟩
        · rw [List.flatMap_cons, revise_append, hfirst, hrevise]
        · obtain ⟨t, ht, heq⟩ := hmore
          rcases List.mem_cons.1 ht with rfl | ht
          · exact absurd heq hkey
          · exact ⟨t, ht, heq⟩
        · exact hne t (List.mem_cons_of_mem s ht)

theorem revise_steps_of_other (hworkload : ¬ r.isWorkload) (hsettings : r.kind ≠ .configMap) :
    revise key (steps o c) r = r := by
  refine Bundle.revise_eq_self fun t ht => ?_
  obtain ⟨s, -, ht⟩ := List.mem_flatMap.1 ht
  rcases storageStep_cases ht with ⟨f, rfl, hf⟩ | rfl | ⟨claim, rfl⟩ | ⟨name, rfl⟩
  · exact hf.fixed key r (decide_eq_false hsettings)
  · exact (confined_moveWorkload s).fixed key r (Bool.eq_false_iff.2 hworkload)
  · rfl
  · rfl

theorem settled_revise (o : ObjectStorageOptions) (c : Capabilities) (key : ObjectKey)
    (r : Resource) : Settled o c key r (revise key (steps o c) r) := by
  by_cases hworkload : r.isWorkload
  · have hkind : r.kind ≠ .configMap :=
      Resource.kind_ne_of_isWorkload hworkload Bool.false_ne_true
    rw [revise_steps_of_isWorkload hworkload]
    split
    · next hnone => exact .other (fun _ => hnone) fun h => absurd h hkind
    · next hshares => exact .workload hworkload hshares
  by_cases hsettings : r.kind = .configMap
  · obtain ⟨m, hm⟩ := Resource.exists_ofKind_eq hsettings
    obtain rfl := Option.some.inj hm
    obtain ⟨m', hrevise, hheld, hfree⟩ := exists_revise_configMap (o := o) key c.sharedStorage m
    rw [steps, hrevise]
    by_cases hkey : HoldsSettings c key
    · exact .settings hkey (hheld hkey)
    · obtain rfl := hfree fun s hs heq => hkey ⟨s, hs, heq⟩
      exact .other (absurd · hworkload) fun _ => hkey
  · rw [revise_steps_of_other hworkload hsettings]
    exact .other (absurd · hworkload) fun h => absurd h hsettings

theorem Settled.unique {r'' : Resource} (h : Settled o c key r r') (h' : Settled o c key r r'') :
    r' = r'' := by
  cases h with
  | workload hworkload hshares =>
      cases h' with
      | workload => rfl
      | settings => cases hworkload
      | other happart => exact absurd (happart hworkload) hshares
  | settings hkey hconfigured =>
      cases h' with
      | workload hworkload => cases hworkload
      | settings _ hconfigured' => rw [hconfigured.unique hconfigured']
      | other _ hfree => exact absurd hkey (hfree rfl)
  | other happart hfree =>
      cases h' with
      | workload hworkload hshares => exact absurd (happart hworkload) hshares
      | settings hkey => exact absurd hkey (hfree rfl)
      | other => rfl

/-! ## The bundle as a whole -/

/-- Whether the environment ConfigMap of a storage is in the bundle. -/
def Provides (b : Bundle) (s : SharedStorage) : Prop :=
  ∃ m, b.object? (.template .configMap s.environmentConfigMap) = some (.configMap m)

/-- The identities of the claims that object storage replaces. -/
def claims (c : Capabilities) : List ObjectKey :=
  c.sharedStorage.map fun s => .template .persistentVolumeClaim s.claim

/-- The bundle `b'` is `b` with its shared volumes replaced by object storage: what is not replaced
is where it was, and each object is settled by itself. -/
structure Effect (o : ObjectStorageOptions) (b b' : Bundle) : Prop where
  capabilities : b'.capabilities = b.capabilities
  parameters : b'.parameters.entries = b.parameters.entries.filter
    (·.1 ∉ b.capabilities.sharedStorage.flatMap (·.parameter.toList))
  objects : List.Forall₂ (fun e e' => e'.1 = e.1 ∧ Settled o b.capabilities e.1 e.2 e'.2)
    (b.objects.entries.filter (·.1 ∉ claims b.capabilities)) b'.objects.entries

theorem joiningKeys_step {t : Step} (ht : t ∈ steps o c) (b : Bundle) : t.joiningKeys b = [] := by
  rcases step_cases ht with ⟨f, rfl, -⟩ | ⟨key, rfl⟩ | ⟨name, rfl⟩ <;> rfl

theorem effect_runSteps (o : ObjectStorageOptions) (b : Bundle) :
    Effect o b (runSteps (steps o b.capabilities) b) where
  capabilities := Bundle.capabilities_runSteps _ b
  parameters := by
    rw [Bundle.parameters_runSteps, leavingNames_steps]
    intro t ht name value
    rcases step_cases ht with ⟨f, rfl, -⟩ | ⟨key, rfl⟩ | ⟨name, rfl⟩ <;> exact nofun
  objects := by
    have hclaims : (steps o b.capabilities).flatMap Step.leavingKeys = claims b.capabilities :=
      leavingKeys_steps
    rw [Bundle.entries_runSteps fun t ht => joiningKeys_step ht, hclaims,
      List.forall₂_map_right_iff, List.forall₂_same]
    exact fun e _ => ⟨rfl, settled_revise o b.capabilities e.1 e.2⟩

theorem Effect.unique {b'' : Bundle} (h : Effect o b b') (h' : Effect o b b'') : b' = b'' := by
  have hentry : Relator.RightUnique fun e e' : ObjectKey × Resource =>
      e'.1 = e.1 ∧ Settled o b.capabilities e.1 e.2 e'.2 := fun _ _ _ he he' =>
    Prod.ext (he.1.trans he'.1.symm) (he.2.unique he'.2)
  exact Bundle.ext_entries (h.parameters.trans h'.parameters.symm)
    (hentry.forall₂ h.objects h'.objects) (h.capabilities.trans h'.capabilities.symm)

theorem hasEnvironment_iff_provides (s : SharedStorage) (b : Bundle) :
    hasEnvironment s b ↔ Provides b s := by
  unfold hasEnvironment Provides
  cases b.object? (.template .configMap s.environmentConfigMap) with
  | none => simp
  | some r => cases r <;> simp

theorem firstLacking_eq_some_iff (b : Bundle) (ss : List SharedStorage) (s : SharedStorage) :
    firstLacking b ss = some s ↔ ∃ before after, ss = before ++ s :: after ∧
      (∀ t ∈ before, Provides b t) ∧ ¬ Provides b s := by
  unfold firstLacking
  rw [List.find?_eq_some_iff_append]
  simp only [← hasEnvironment_iff_provides]
  constructor
  · rintro ⟨hs, before, after, rfl, hbefore⟩
    exact ⟨before, after, rfl, by simpa using hbefore, by simpa using hs⟩
  · rintro ⟨before, after, rfl, hbefore, hs⟩
    exact ⟨by simpa using hs, before, after, rfl, by simpa using hbefore⟩

theorem firstLacking_eq_none_iff (b : Bundle) (ss : List SharedStorage) :
    firstLacking b ss = none ↔ ∀ s ∈ ss, Provides b s := by
  unfold firstLacking
  rw [List.find?_eq_none]
  simp [← hasEnvironment_iff_provides]

theorem run_eq_error (hfirst : firstLacking b b.capabilities.sharedStorage = some s) :
    (transform o).run b =
      .error (.missingEnvironmentConfigMap s.volume s.environmentConfigMap) := by
  have hall : (transform o).run b = replaceAll o b.capabilities.sharedStorage b := rfl
  rw [hall, replaceAll_eq, hfirst]

theorem run_eq_ok (hfirst : firstLacking b b.capabilities.sharedStorage = none) :
    (transform o).run b = .ok (runSteps (steps o b.capabilities) b) := by
  have hall : (transform o).run b = replaceAll o b.capabilities.sharedStorage b := rfl
  rw [hall, replaceAll_eq, hfirst]
  rfl

/-- External storage fails exactly for a bundle that lacks an environment ConfigMap, and names the
first one in the order of declarations.  All other bundles have its effect. -/
theorem run_moves_files (o : ObjectStorageOptions) (b : Bundle) :
    (∀ e, (transform o).run b = .error e ↔
      ∃ before s after, b.capabilities.sharedStorage = before ++ s :: after ∧
        (∀ t ∈ before, Provides b t) ∧ ¬ Provides b s ∧
        e = .missingEnvironmentConfigMap s.volume s.environmentConfigMap) ∧
      ∀ b', (transform o).run b = .ok b' ↔
        (∀ s ∈ b.capabilities.sharedStorage, Provides b s) ∧ Effect o b b' := by
  cases hfirst : firstLacking b b.capabilities.sharedStorage with
  | none =>
      have hprovides := (firstLacking_eq_none_iff b _).1 hfirst
      have hrun := run_eq_ok (o := o) hfirst
      refine ⟨fun e => ⟨fun h => ?_, ?_⟩, fun b' => ⟨fun h => ?_, fun ⟨_, heffect⟩ => ?_⟩⟩
      · cases hrun.symm.trans h
      · rintro ⟨before, s, after, hsplit, -, hs, -⟩
        exact absurd (hprovides s (hsplit ▸ List.mem_append_right _ List.mem_cons_self)) hs
      · obtain rfl := Except.ok.inj (hrun.symm.trans h)
        exact ⟨hprovides, effect_runSteps o b⟩
      · rw [hrun, heffect.unique (effect_runSteps o b)]
  | some s =>
      obtain ⟨before, after, hsplit, hbefore, hs⟩ := (firstLacking_eq_some_iff b _ s).1 hfirst
      have hrun := run_eq_error (o := o) hfirst
      refine ⟨fun e => ⟨fun h => ?_, ?_⟩, fun b' => ⟨fun h => ?_, fun ⟨hprovides, _⟩ => ?_⟩⟩
      · exact ⟨before, s, after, hsplit, hbefore, hs, (Except.error.inj (hrun.symm.trans h)).symm⟩
      · rintro ⟨before', s', after', hsplit', hbefore', hs', rfl⟩
        have hother := (firstLacking_eq_some_iff b _ s').2
          ⟨before', after', hsplit', hbefore', hs'⟩
        obtain rfl := Option.some.inj (hfirst.symm.trans hother)
        exact hrun
      · cases hrun.symm.trans h
      · exact absurd (hprovides s (hsplit ▸ List.mem_append_right _ List.mem_cons_self)) hs

end ExternalStorage

end ApiPlatform
