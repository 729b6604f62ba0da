import ApiPlatform.Proofs.Transform.Extension
/-!
# Transforms as sequences of steps

Every transform writes a list of elementary changes that depends on the declared capabilities
alone, and no step changes these.  One of them looks at the bundle before it starts.
-/

namespace ApiPlatform

open Catalog (HighAvailabilityOptions ObjectStorageOptions)

namespace Bundle

/-- An elementary change of a bundle. -/
inductive Step where
  /-- Changes every object with a view to its identity. -/
  | change (f : ObjectKey → Resource → Resource)
  | put (r : Resource)
  | remove (key : ObjectKey)
  | removeParameter (name : String)
  | setDefault (name : String) (value : Option String)

namespace Step

/-- Changes the objects under one identity. -/
def changeAt (key : ObjectKey) (f : Resource → Resource) : Step :=
  .change fun k r => if k = key then f r else r

def run : Step → Bundle → Bundle
  | .change f, b => { b with objects := b.objects.mapEntries f }
  | .put r, b => b.upsertObject r
  | .remove key, b => b.removeObject key
  | .removeParameter name, b => b.removeParameter name
  | .setDefault name value, b => b.setDefault name value

end Step

def runSteps (steps : List Step) (b : Bundle) : Bundle := steps.foldl (fun b s => s.run b) b

variable {b : Bundle}

theorem modifyObject_eq_run (key : ObjectKey) (f : Resource → Resource) (b : Bundle) :
    b.modifyObject key f = (Step.changeAt key f).run b :=
  congrArg (Bundle.mk b.parameters · b.capabilities) (OrderedMap.modify_eq_mapEntries _ _ _)

@[simp] theorem Step.capabilities_run (s : Step) (b : Bundle) :
    (s.run b).capabilities = b.capabilities := by
  cases s <;> rfl

@[simp] theorem capabilities_runSteps (steps : List Step) (b : Bundle) :
    (runSteps steps b).capabilities = b.capabilities := by
  induction steps generalizing b with
  | nil => rfl
  | cons s steps ih => exact (ih (s.run b)).trans (s.capabilities_run b)

theorem runSteps_cons (s : Step) (steps : List Step) (b : Bundle) :
    runSteps (s :: steps) b = runSteps steps (s.run b) :=
  rfl

theorem runSteps_append (first second : List Step) (b : Bundle) :
    runSteps (first ++ second) b = runSteps second (runSteps first b) :=
  List.foldl_append

/-- What a transform does: it finds fault with a bundle, or it takes the steps for the declared
capabilities. -/
structure Plan where
  steps : Capabilities → List Step
  fault? : Bundle → Option TransformError := fun _ => none

def Plan.run (p : Plan) (b : Bundle) : Except TransformError Bundle :=
  match p.fault? b with
  | some e => .error e
  | none => .ok (runSteps (p.steps b.capabilities) b)

/-! ## What a step leaves alone -/

/-- The step leaves an object of the same kind under an identity, or none if there was none. -/
def Step.Spares (key : ObjectKey) : Step → Prop
  | .change f => ∀ r, (f key r).kind = r.kind
  | .put r => r.key ≠ key
  | .remove k => k ≠ key
  | .removeParameter _ | .setDefault _ _ => True

/-- The kind of the object under an identity. -/
def kindAt (b : Bundle) (key : ObjectKey) : Option Kind := (b.object? key).map (·.kind)

theorem Step.Spares.kindAt_run {key : ObjectKey} {s : Step} (hs : s.Spares key) (b : Bundle) :
    (s.run b).kindAt key = b.kindAt key := by
  unfold kindAt object?
  cases s with
  | change f =>
      have hkind : ∀ r, (f key r).kind = r.kind := hs
      have hget : (b.objects.mapEntries f).get? key = (b.objects.get? key).map (f key) :=
        OrderedMap.get?_mapEntries f key b.objects
      rw [run, hget, Option.map_map]
      exact congrFun (congrArg Option.map (funext hkind)) _
  | put r =>
      have hget := OrderedMap.get?_insert_of_ne (Ne.symm hs) r b.objects
      exact congrArg (Option.map _) hget
  | remove k =>
      have hget := OrderedMap.get?_erase_of_ne (Ne.symm hs) b.objects
      exact congrArg (Option.map _) hget
  | removeParameter name => rfl
  | setDefault name value => rfl

theorem kindAt_runSteps {key : ObjectKey} {steps : List Step}
    (hsteps : ∀ s ∈ steps, s.Spares key) (b : Bundle) :
    (runSteps steps b).kindAt key = b.kindAt key := by
  induction steps generalizing b with
  | nil => rfl
  | cons s steps ih =>
      obtain ⟨hs, hrest⟩ := List.forall_mem_cons.1 hsteps
      exact (ih hrest (s.run b)).trans (hs.kindAt_run b)

/-- A change that keeps kinds and leaves objects of other kinds as they are. -/
structure Step.Confined (kinds : Kind → Bool) (f : ObjectKey → Resource → Resource) : Prop where
  kind : ∀ k r, (f k r).kind = r.kind
  fixed : ∀ k r, kinds r.kind = false → f k r = r

theorem Step.Confined.at {kinds : Kind → Bool} {f : Resource → Resource}
    (hf : Step.Confined kinds fun _ => f) (key : ObjectKey) :
    Step.Confined kinds fun k r => if k = key then f r else r where
  kind k r := by
    split
    · exact hf.kind k r
    · rfl
  fixed k r hr := by
    split
    · exact hf.fixed k r hr
    · rfl

theorem Step.Confined.comm {kinds kinds' : Kind → Bool} {f g : ObjectKey → Resource → Resource}
    (hf : Step.Confined kinds f) (hg : Step.Confined kinds' g)
    (hdisjoint : ∀ k, kinds k = false ∨ kinds' k = false) (k : ObjectKey) (r : Resource) :
    f k (g k r) = g k (f k r) := by
  rcases hdisjoint r.kind with hr | hr
  · rw [hf.fixed k r hr, hf.fixed k _ ((congrArg kinds (hg.kind k r)).trans hr)]
  · rw [hg.fixed k r hr, hg.fixed k _ ((congrArg kinds' (hf.kind k r)).trans hr)]

end Bundle

open ApiPlatform.Bundle (Step Plan runSteps runSteps_append)

/-! ## The steps of each transform -/

namespace Productized

variable (o : ProductizedOptions) (c : Capabilities)

def steps : List Step :=
  c.productImageParameters.entries.map (fun e => .setDefault e.1 (some (o.image e.2))) ++
    [.change fun _ => redirectStream o c]

def plan : Plan := { steps := steps o }

theorem run_eq (b : Bundle) : (transform o).run b = (plan o).run b := by
  have hdefaults : runSteps (b.capabilities.productImageParameters.entries.map fun e =>
      .setDefault e.1 (some (o.image e.2))) b = redirectDefaults o b :=
    List.foldl_map
  have hsteps : runSteps (steps o b.capabilities) b =
      (redirectDefaults o b).mapObjects (redirectStream o b.capabilities) := by
    rw [steps, runSteps_append, hdefaults]
    rfl
  exact congrArg Except.ok hsteps.symm

theorem confined_redirectStream :
    Step.Confined (· = .imageStream) fun _ => redirectStream o c where
  kind _ r := by
    cases r with
    | imageStream s =>
        unfold redirectStream
        dsimp only
        split <;> rfl
    | _ => rfl
  fixed _ r hr := by
    cases r with
    | imageStream s => exact absurd hr (by simp [Resource.kind])
    | _ => rfl

variable {o c}

theorem step_cases {s : Step} (hs : s ∈ steps o c) :
    (∃ name value, s = .setDefault name value) ∨
      ∃ f, s = .change f ∧ Step.Confined (· = .imageStream) f := by
  rcases List.mem_append.1 hs with hs | hs
  · obtain ⟨e, -, rfl⟩ := List.mem_map.1 hs
    exact .inl ⟨_, _, rfl⟩
  · obtain rfl := List.mem_singleton.1 hs
    exact .inr ⟨_, rfl, confined_redirectStream o c⟩

end Productized

namespace Evaluation

def steps : List Step := [.change fun _ => Resource.modifyPodSpec relaxPod]

def plan : Plan := { steps := fun _ => steps }

theorem run_eq (b : Bundle) : transform.run b = plan.run b := rfl

end Evaluation

namespace Resource

theorem confined_modifyPodSpec (f : PodSpec → PodSpec) :
    Step.Confined Kind.isWorkload fun _ => modifyPodSpec f where
  kind _ r := by cases r <;> rfl
  fixed _ r hr := by
    cases r with
    | deployment d => cases hr
    | deploymentConfig d => cases hr
    | _ => rfl

end Resource

namespace HighAvailability

variable (o : HighAvailabilityOptions) (c : Capabilities)

/-- The Secrets that replace declared ones. -/
def replacements : List Resource :=
  (Catalog.HighAvailability.objects o).filter fun r =>
    r.kind = .secret ∧ c.connectionSecrets.contains r.name

/-- The steps that write the addresses of the declared endpoints. -/
def addressSteps : List Step :=
  c.externalEndpoints.entries.flatMap fun e =>
    e.2.map fun f => .changeAt (.template .secret f.secret) (writeEntry f.field (o.url e.1))

def steps : List Step :=
  c.externalDatabaseObjects.keys.map .remove ++
    ((replacements o c).map .put ++
      (c.externalDatabaseParameters.keys.map .removeParameter ++
        ((.change fun _ => scale o.replicas c) :: addressSteps o c)))

def plan : Plan := { steps := steps o }

variable {o c} {b : Bundle}

theorem run_removals (hc : b.capabilities = c) :
    runSteps (c.externalDatabaseObjects.keys.map .remove) b = dropDatabases b := by
  subst hc
  exact List.foldl_map

theorem run_removedParameters (hc : b.capabilities = c) :
    runSteps (c.externalDatabaseParameters.keys.map .removeParameter) b = dropParameters b := by
  subst hc
  exact List.foldl_map

theorem run_replacements (hc : b.capabilities = c) :
    runSteps ((replacements o c).map .put) b = replaceConnections o b := by
  unfold replacements replaceConnections
  -- Which Secrets are replaced is decided by the declarations, which no step changes.
  generalize Catalog.HighAvailability.objects o = rs
  induction rs generalizing b with
  | nil => rfl
  | cons r rs ih =>
      rw [List.foldl_cons, hc]
      by_cases hr : r.kind = .secret ∧ c.connectionSecrets.contains r.name
      · rw [List.filter_cons_of_pos (by simpa using hr), if_pos hr]
        exact ih hc
      · rw [List.filter_cons_of_neg (by simpa using hr), if_neg hr]
        exact ih hc

theorem run_addressSteps (hc : b.capabilities = c) :
    runSteps (addressSteps o c) b = writeEndpoints o b := by
  have hendpoint : ∀ (url : String) (fields : List EndpointField) (b : Bundle),
      runSteps (fields.map fun f =>
        .changeAt (.template .secret f.secret) (writeEntry f.field url)) b =
        writeEndpoint url fields b := by
    intro url fields b
    unfold runSteps writeEndpoint
    rw [List.foldl_map]
    simp only [Bundle.modifyObject_eq_run]
  unfold addressSteps writeEndpoints
  rw [hc]
  generalize c.externalEndpoints.entries = entries
  clear hc
  induction entries generalizing b with
  | nil => rfl
  | cons e entries ih =>
      rw [List.flatMap_cons, runSteps_append, hendpoint]
      exact ih

theorem run_eq (o : HighAvailabilityOptions) (b : Bundle) :
    (transform o).run b = (plan o).run b := by
  have hsteps : runSteps (steps o b.capabilities) b =
      writeEndpoints o ((dropParameters (replaceConnections o (dropDatabases b))).mapObjects
        (scale o.replicas b.capabilities)) := by
    rw [steps, runSteps_append, runSteps_append, runSteps_append, Bundle.runSteps_cons,
      run_addressSteps, run_removedParameters, run_replacements, run_removals]
    · rfl
    all_goals simp
  exact congrArg Except.ok hsteps.symm

theorem kind_withReplicas (replicas : Int32) (r : Resource) :
    (r.withReplicas replicas).kind = r.kind := by
  cases r <;> rfl

theorem confined_scale (replicas : Int32) (c : Capabilities) :
    Step.Confined Kind.isWorkload fun _ => scale replicas c where
  kind _ r := by
    unfold scale
    split
    · exact kind_withReplicas replicas r
    · rfl
  fixed _ r hr := if_neg fun h => Bool.false_ne_true (hr.symm.trans h.1)

theorem confined_writeEntry (field url : String) :
    Step.Confined (· = .secret) fun _ => writeEntry field url where
  kind _ r := by cases r <;> rfl
  fixed _ r hr := by
    cases r with
    | secret s => exact absurd hr (by simp [Resource.kind])
    | _ => rfl

theorem step_cases {s : Step} (hs : s ∈ steps o c) :
    (∃ key ∈ c.externalDatabaseObjects.keys, s = .remove key) ∨
      (∃ r, r.kind = .secret ∧ s = .put r) ∨
      (∃ name, s = .removeParameter name) ∨
      s = (.change fun _ => scale o.replicas c) ∨
      ∃ f, s = .change f ∧ Step.Confined (· = .secret) f := by
  simp only [steps, List.mem_append, List.mem_cons, List.mem_map] at hs
  rcases hs with ⟨key, hkey, rfl⟩ | ⟨r, hr, rfl⟩ | ⟨name, -, rfl⟩ | rfl | hs
  · exact .inl ⟨key, hkey, rfl⟩
  · have hkind := of_decide_eq_true (List.mem_filter.1 hr).2
    exact .inr (.inl ⟨r, hkind.1, rfl⟩)
  · exact .inr (.inr (.inl ⟨name, rfl⟩))
  · exact .inr (.inr (.inr (.inl rfl)))
  · obtain ⟨e, -, hs⟩ := List.mem_flatMap.1 hs
    obtain ⟨f, -, rfl⟩ := List.mem_map.1 hs
    exact .inr (.inr (.inr (.inr ⟨_, rfl, (confined_writeEntry _ _).at _⟩)))

end HighAvailability

namespace ExternalStorage

variable (o : ObjectStorageOptions)

/-- The steps that replace one storage. -/
def storageSteps (s : SharedStorage) : List Step :=
  .changeAt (.template .configMap s.environmentConfigMap) (writeSettings o) ::
    (.change fun _ => moveWorkload o s) ::
    .remove (.template .persistentVolumeClaim s.claim) ::
    s.parameter.toList.map .removeParameter

def steps (c : Capabilities) : List Step := c.sharedStorage.flatMap (storageSteps o)

variable {o}

theorem hasEnvironment_iff {s : SharedStorage} {b : Bundle} :
    hasEnvironment s b ↔
      b.kindAt (.template .configMap s.environmentConfigMap) = some .configMap := by
  unfold hasEnvironment Bundle.kindAt
  cases b.object? (.template .configMap s.environmentConfigMap) with
  | none => simp
  | some r => cases r <;> simp [Resource.kind]

theorem replace_eq {s : SharedStorage} {b : Bundle} (hs : hasEnvironment s b) :
    replace o b s = .ok (runSteps (storageSteps o s) b) := by
  rw [replace, if_pos hs, Bundle.modifyObject_eq_run]
  unfold dropParameter storageSteps
  cases s.parameter <;> rfl

theorem confined_writeSettings :
    Step.Confined (· = .configMap) fun _ => writeSettings o where
  kind _ r := by cases r <;> rfl
  fixed _ r hr := by
    cases r with
    | configMap c => exact absurd hr (by simp [Resource.kind])
    | _ => rfl

theorem kind_moveStrategy (s : SharedStorage) (r : Resource) :
    (moveStrategy o s r).kind = r.kind := by
  cases r <;> rfl

theorem confined_moveWorkload (s : SharedStorage) :
    Step.Confined Kind.isWorkload fun _ => moveWorkload o s where
  kind k r := by
    unfold moveWorkload
    split
    · exact ((Resource.confined_modifyPodSpec _).kind k _).trans (kind_moveStrategy s r)
    · rfl
  fixed _ r hr := if_neg fun h => Bool.false_ne_true (hr.symm.trans h.1)

theorem storageStep_cases {s : SharedStorage} {t : Step} (ht : t ∈ storageSteps o s) :
    (∃ f, t = .change f ∧ Step.Confined (· = .configMap) f) ∨
      (t = .change fun _ => moveWorkload o s) ∨
      (∃ claim, t = .remove (.template .persistentVolumeClaim claim)) ∨
      ∃ name, t = .removeParameter name := by
  simp only [storageSteps, List.mem_cons, List.mem_map] at ht
  rcases ht with rfl | rfl | rfl | ⟨name, -, rfl⟩
  · exact .inl ⟨_, rfl, confined_writeSettings.at _⟩
  · exact .inr (.inl rfl)
  · exact .inr (.inr (.inl ⟨s.claim, rfl⟩))
  · exact .inr (.inr (.inr ⟨name, rfl⟩))

/-- Replacing a storage leaves every environment ConfigMap in place. -/
theorem spares_of_mem_storageSteps {s : SharedStorage} {t : Step} (ht : t ∈ storageSteps o s)
    (name : String) : t.Spares (.template .configMap name) := by
  rcases storageStep_cases ht with ⟨f, rfl, hf⟩ | rfl | ⟨claim, rfl⟩ | ⟨parameter, rfl⟩
  · exact hf.kind _
  · exact (confined_moveWorkload s).kind (.template .configMap name)
  · intro heq
    cases heq
  · exact trivial

/-- The first storage in a list whose environment ConfigMap is not in the bundle. -/
def firstLacking (b : Bundle) (storages : List SharedStorage) : Option SharedStorage :=
  storages.find? fun s => ¬ hasEnvironment s b

theorem firstLacking_runSteps {storages : List SharedStorage} {ts : List Step}
    (hts : ∀ s ∈ storages, ∀ t ∈ ts, t.Spares (.template .configMap s.environmentConfigMap))
    (b : Bundle) : firstLacking (runSteps ts b) storages = firstLacking b storages := by
  induction storages with
  | nil => rfl
  | cons s storages ih =>
      obtain ⟨hs, hrest⟩ := List.forall_mem_cons.1 hts
      have hkept : hasEnvironment s (runSteps ts b) = hasEnvironment s b := by
        rw [Bool.eq_iff_iff, hasEnvironment_iff, hasEnvironment_iff, Bundle.kindAt_runSteps hs]
      have ih := ih hrest
      unfold firstLacking at ih ⊢
      rw [List.find?_cons, List.find?_cons, hkept, ih]

theorem replaceAll_eq (storages : List SharedStorage) (b : Bundle) :
    replaceAll o storages b =
      match firstLacking b storages with
      | some s => .error (.missingEnvironmentConfigMap s.volume s.environmentConfigMap)
      | none => .ok (runSteps (storages.flatMap (storageSteps o)) b) := by
  induction storages generalizing b with
  | nil => rfl
  | cons s storages ih =>
      by_cases hs : hasEnvironment s b
      · have hskip : firstLacking b (s :: storages) = firstLacking b storages :=
          List.find?_cons_of_neg (by simpa using hs)
        have hrest : firstLacking (runSteps (storageSteps o s) b) storages =
            firstLacking b storages :=
          firstLacking_runSteps (fun s' _ t ht => spares_of_mem_storageSteps ht _) b
        rw [replaceAll, replace_eq hs, hskip, ← hrest, List.flatMap_cons, runSteps_append]
        exact ih _
      · have hfirst : firstLacking b (s :: storages) = some s :=
          List.find?_cons_of_pos (by simpa using hs)
        rw [replaceAll, replace, if_neg hs, hfirst]
        rfl

/-- The storages are replaced unless one of them lacks its environment ConfigMap. -/
def plan (o : ObjectStorageOptions) : Plan where
  steps := steps o
  fault? b := (firstLacking b b.capabilities.sharedStorage).map fun s =>
    .missingEnvironmentConfigMap s.volume s.environmentConfigMap

theorem run_eq (o : ObjectStorageOptions) (b : Bundle) :
    (transform o).run b = (plan o).run b := by
  have hall : (transform o).run b = replaceAll o b.capabilities.sharedStorage b := rfl
  rw [hall, replaceAll_eq]
  simp only [Plan.run, plan]
  cases firstLacking b b.capabilities.sharedStorage <;> rfl

end ExternalStorage

end ApiPlatform
