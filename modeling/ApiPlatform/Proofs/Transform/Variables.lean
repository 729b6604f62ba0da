import ApiPlatform.Proofs.Transform.ObjectStorage
/-!
# Variables of workloads with object storage

Each declared storage appends its variables to the workloads that it lists.  A workload of two
storages so defines each of these variables twice, and no other variable comes to be defined twice.
-/

namespace ApiPlatform

open ApiPlatform.Bundle (revise runSteps)
open Catalog (ObjectStorageOptions)

/-- The names of the variables of a container, one for each definition. -/
def Container.variables (container : Container) : List String :=
  (container.env.getD []).map (·.name)

def HookPod.variables (h : HookPod) : List String := h.env.map (·.name)

namespace Resource

/-- The variables of the containers that run in the pods and of the hook, each for itself. -/
def runningVariables (r : Resource) : List (List String) :=
  r.mainContainers.map (·.variables) ++ (r.hook?.map (·.variables)).toList

/-- The variables of the containers that prepare the pods, each for itself. -/
def preparingVariables (r : Resource) : List (List String) := r.initContainers.map (·.variables)

theorem runningVariables_eq_nil {r : Resource} (hr : ¬ r.isWorkload) : r.runningVariables = [] := by
  cases r with
  | deployment d => exact absurd rfl hr
  | deploymentConfig d => exact absurd rfl hr
  | _ => rfl

end Resource

namespace ExternalStorage

variable {o : ObjectStorageOptions} {c : Capabilities} {b b' : Bundle} {key : ObjectKey}
variable {ss : List SharedStorage} {r r' : Resource} {vars : List String} {n : Nat}

/-- The names of the variables that come with a storage. -/
def storageVariables : List String :=
  [storageKey, accessKeyIdKey, secretAccessKeyKey, bucketKey, regionKey]

/-- The object defines no variable twice, and none of those that come with a storage. -/
def DefinesOnce (r : Resource) : Prop :=
  ∀ vars ∈ r.runningVariables ++ r.preparingVariables,
    vars.Nodup ∧ ∀ v ∈ storageVariables, v ∉ vars

instance (r : Resource) : Decidable (DefinesOnce r) :=
  inferInstanceAs (Decidable (∀ vars ∈ r.runningVariables ++ r.preparingVariables,
    vars.Nodup ∧ ∀ v ∈ storageVariables, v ∉ vars))

/-! ## How often a variable is defined -/

/-- The variables that come with a storage are defined `n` times each, the others at most once. -/
structure Repeated (n : Nat) (vars : List String) : Prop where
  storage : ∀ v ∈ storageVariables, vars.count v = n
  others : ∀ v ∉ storageVariables, vars.count v ≤ 1

theorem Repeated.nodup_iff (h : Repeated n vars) : vars.Nodup ↔ n ≤ 1 := by
  rw [List.nodup_iff_count_le_one]
  constructor
  · intro hvars
    rw [← h.storage storageKey List.mem_cons_self]
    exact hvars storageKey
  · intro hn v
    by_cases hv : v ∈ storageVariables
    · rw [h.storage v hv]
      exact hn
    · exact h.others v hv

theorem count_env (o : ObjectStorageOptions) (ss : List SharedStorage) (v : String) :
    ((ss.flatMap (env o)).map (·.name)).count v =
      if v ∈ storageVariables then ss.length else 0 := by
  induction ss with
  | nil => simp
  | cons s ss ih =>
      have hone : ((env o s).map (·.name)).count v = if v ∈ storageVariables then 1 else 0 :=
        List.Nodup.count (by decide : storageVariables.Nodup)
      rw [List.flatMap_cons, List.map_append, List.count_append, ih, hone]
      split
      · rw [List.length_cons, Nat.add_comm]
      · rfl

theorem repeated_append (hvars : vars.Nodup) (hfree : ∀ v ∈ storageVariables, v ∉ vars)
    (o : ObjectStorageOptions) (ss : List SharedStorage) :
    Repeated ss.length (vars ++ (ss.flatMap (env o)).map (·.name)) where
  storage v hv := by
    rw [List.count_append, count_env, if_pos hv, List.count_eq_zero_of_not_mem (hfree v hv),
      Nat.zero_add]
  others v hv := by
    rw [List.count_append, count_env, if_neg hv, Nat.add_zero]
    exact List.nodup_iff_count_le_one.1 hvars v

/-! ## One object -/

theorem name_movedWorkload (o : ObjectStorageOptions) (ss : List SharedStorage) (r : Resource) :
    (movedWorkload o ss r).name = r.name := by
  cases r <;> rfl

theorem podSpec?_movedWorkload (o : ObjectStorageOptions) (ss : List SharedStorage)
    (r : Resource) : (movedWorkload o ss r).podSpec? = r.podSpec?.map (movedPod o ss) := by
  unfold movedWorkload
  rw [Resource.podSpec?_modifyPodSpec]
  cases r <;> rfl

theorem hook?_movedWorkload (o : ObjectStorageOptions) (ss : List SharedStorage) (r : Resource) :
    (movedWorkload o ss r).hook? = r.hook?.map (movedHook o ss) := by
  unfold movedWorkload
  rw [Resource.hook?_modifyPodSpec]
  cases r with
  | deploymentConfig d => exact hookPod?_modifyHookPod _ _
  | _ => rfl

theorem runningVariables_movedWorkload (o : ObjectStorageOptions) (ss : List SharedStorage)
    (r : Resource) : (movedWorkload o ss r).runningVariables =
      r.runningVariables.map (· ++ (ss.flatMap (env o)).map (·.name)) := by
  have hmain : (movedWorkload o ss r).mainContainers.map (·.variables) =
      (r.mainContainers.map (·.variables)).map (· ++ (ss.flatMap (env o)).map (·.name)) := by
    unfold Resource.mainContainers
    rw [podSpec?_movedWorkload]
    cases r.podSpec? with
    | none => rfl
    | some p => simp [movedPod, Container.variables, Container.addEnv, unmounted]
  unfold Resource.runningVariables
  rw [hmain, hook?_movedWorkload, List.map_append]
  cases r.hook? with
  | none => rfl
  | some h => simp [movedHook, HookPod.variables]

theorem preparingVariables_movedWorkload (o : ObjectStorageOptions) (ss : List SharedStorage)
    (r : Resource) : (movedWorkload o ss r).preparingVariables = r.preparingVariables := by
  unfold Resource.preparingVariables Resource.initContainers
  rw [podSpec?_movedWorkload]
  rcases r.podSpec? with _ | ⟨_, _ | inits, _, _, _⟩
  · rfl
  · rfl
  · exact List.map_map

theorem Settled.repeated (h : Settled o c key r r') (hr : DefinesOnce r) :
    (∀ vars ∈ r'.preparingVariables, vars.Nodup) ∧
      ∀ vars ∈ r'.runningVariables, Repeated (sharing c r'.name).length vars := by
  have hpreparing : ∀ vars ∈ r.preparingVariables, vars.Nodup := fun vars hvars =>
    (hr vars (List.mem_append_right _ hvars)).1
  cases h with
  | workload hworkload hshares =>
      rw [preparingVariables_movedWorkload, runningVariables_movedWorkload, name_movedWorkload]
      refine ⟨hpreparing, fun vars hvars => ?_⟩
      obtain ⟨old, hold, rfl⟩ := List.mem_map.1 hvars
      obtain ⟨hnodup, hfree⟩ := hr old (List.mem_append_left _ hold)
      exact repeated_append hnodup hfree o _
  | settings => exact ⟨nofun, nofun⟩
  | other hworkload =>
      refine ⟨hpreparing, fun vars hvars => ?_⟩
      by_cases hkind : r.isWorkload
      · obtain ⟨hnodup, hfree⟩ := hr vars (List.mem_append_left _ hvars)
        have hnone := repeated_append hnodup hfree o []
        rw [hworkload hkind]
        simpa using hnone
      · rw [Resource.runningVariables_eq_nil hkind] at hvars
        exact absurd hvars List.not_mem_nil

/-! ## The bundle as a whole -/

/-- With object storage the containers that run and the hook of a workload define the variables of
object storage once for each storage that lists the workload.  No other variable is defined twice,
and none by a container that prepares the pods. -/
theorem run_defines_per_storage (hb : ∀ r ∈ b.objects.values, DefinesOnce r)
    (hrun : (transform o).run b = .ok b') : ∀ r ∈ b'.objects.values,
    (∀ vars ∈ r.preparingVariables, vars.Nodup) ∧
      ∀ vars ∈ r.runningVariables, Repeated (sharing b.capabilities r.name).length vars ∧
        (vars.Nodup ↔ (sharing b.capabilities r.name).length ≤ 1) := by
  have hsteps : b' = runSteps (steps o b.capabilities) b :=
    Transformation.eq_runSteps (t := .externalStorage o) hrun
  intro r hr
  obtain ⟨key, hmem⟩ := OrderedMap.mem_values.1 hr
  rw [hsteps, Bundle.entries_runSteps fun t ht => joiningKeys_step ht] at hmem
  obtain ⟨e, he, heq⟩ := List.mem_map.1 hmem
  have hold : e.2 ∈ b.objects.values :=
    OrderedMap.mem_values.2 ⟨e.1, (List.mem_filter.1 he).1⟩
  have hsettled : Settled o b.capabilities e.1 e.2 r := by
    cases heq
    exact settled_revise o b.capabilities e.1 e.2
  obtain ⟨hpreparing, hrunning⟩ := hsettled.repeated (hb e.2 hold)
  exact ⟨hpreparing, fun vars hvars => ⟨hrunning vars hvars, (hrunning vars hvars).nodup_iff⟩⟩

/-- A workload with two shared volumes, of which one keeps files and the other a cache. -/
def twiceSharedBundle : Bundle :=
  let cache : SharedStorage :=
    { volume := "system-cache"
      claim := "system-cache"
      workloads := .ofList ["system-app"]
      environmentConfigMap := "system-environment" }
  { sharedBundle with
    capabilities :=
      { sharedBundle.capabilities with
        sharedStorage := sharedBundle.capabilities.sharedStorage ++ [cache] } }

theorem twiceSharedBundle_defines_twice :
    (∀ r ∈ twiceSharedBundle.objects.values, DefinesOnce r) ∧
      ∃ b', (transform sharedFiles).run twiceSharedBundle = .ok b' ∧
        ∃ r ∈ b'.objects.values, ∃ vars ∈ r.runningVariables, ¬ vars.Nodup := by
  refine ⟨by decide, _, rfl, ?_⟩
  decide

theorem twiceSharedBundle_defines_per_storage :
    (∀ r ∈ twiceSharedBundle.objects.values, DefinesOnce r) ∧
      ∃ b', (transform sharedFiles).run twiceSharedBundle = .ok b' ∧
        ∀ r ∈ b'.objects.values, (∀ vars ∈ r.preparingVariables, vars.Nodup) ∧
          ∀ vars ∈ r.runningVariables,
            Repeated (sharing twiceSharedBundle.capabilities r.name).length vars ∧
              (vars.Nodup ↔ (sharing twiceSharedBundle.capabilities r.name).length ≤ 1) :=
  ⟨by decide, _, rfl, run_defines_per_storage (by decide) rfl⟩

end ExternalStorage

end ApiPlatform
