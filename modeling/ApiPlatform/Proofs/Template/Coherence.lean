import ApiPlatform.Proofs.Catalog.Platform
import ApiPlatform.Proofs.Transform.Run
/-!
# Every variant is coherent

Whatever the options of the components are, and whichever transforms are chained behind them, the
references between the objects of the bundle hold.
-/

namespace ApiPlatform

open Catalog (Component ObjectStorageOptions)

variable {parameters : Component → List Parameter} {calls : Component → OptionCalls}
variable {parts : List Component} {storage : Option ObjectStorageOptions}
variable {ts : List Transform} {b : Bundle}

/-- Transforms succeed on a bundle of the core components and leave a coherent bundle.  Files may
move to the object storage whose credentials are among the components. -/
theorem Bundle.coherent_of_adaptations (hcore : Component.core ⊆ parts)
    (hparts : parts ⊆ .objectStorage :: Component.core)
    (hassemble : Bundle.assemble (Bundle.ofComponents parameters calls parts) = .ok b)
    (hstorage : ∀ o ∈ storage, .objectStorage ∈ parts ∧
      (ObjectStorageOptions.schema.build (calls .objectStorage)).map .ofRecord = .ok o)
    (hts : ∀ t ∈ ts, Adaptation storage t) :
    ∃ b', (TransformChain.ofList ts).apply b = .ok b' ∧ b'.Coherent := by
  have hb : Component.Deployed calls parts b := ⟨hcore, hparts, Bundle.holds_assemble hassemble⟩
  have hadaptable : b.Adaptable storage := by
    refine hb.adaptable fun o ho => ?_
    obtain ⟨hpart, hbuild⟩ := hstorage o ho
    refine ⟨hpart, ?_⟩
    change o = .ofRecord
      ((ObjectStorageOptions.schema.build (calls .objectStorage)).toOption.getD [])
    cases hrecord : ObjectStorageOptions.schema.build (calls .objectStorage) with
    | error e =>
        rw [hrecord] at hbuild
        cases hbuild
    | ok record =>
        rw [hrecord] at hbuild
        cases hbuild
        rfl
  obtain ⟨b', happly, hb'⟩ := TransformChain.adaptable_apply hts hadaptable
  exact ⟨b', happly, hb'.toCoherent⟩

/-- The required options of a component, each set to its own name. -/
def namedCalls (c : Component) : OptionCalls :=
  (c.schema.fields.filter (·.presence = .required)).map fun f => (f.name, .text f.name)

/-- The options of object storage, each set to its own name. -/
def namedStorage : ObjectStorageOptions := .ofRecord (Bundle.checked namedCalls .objectStorage)

/-- One transform of each kind. -/
def namedTransforms : List Transform :=
  [Evaluation.transform, ExternalStorage.transform namedStorage,
    HighAvailability.transform ⟨"app", "mysql2://db", "redis://1", "redis://2", "redis://3", 2⟩,
    Productized.transform ⟨"2.5", "apicast", "backend", "router", "system", "zync"⟩]

theorem namedPlatform_coherent :
    ∃ b b', Bundle.assemble
        (Bundle.ofComponents (fun _ => []) namedCalls (.objectStorage :: Component.core)) = .ok b ∧
      (TransformChain.ofList namedTransforms).apply b = .ok b' ∧ b'.Coherent := by
  have hassembled : (Bundle.assemble (Bundle.ofComponents (fun _ => []) namedCalls
      (.objectStorage :: Component.core))).toBool = true := by
    decide +kernel
  have hstorage : ∀ o ∈ some namedStorage, .objectStorage ∈ .objectStorage :: Component.core ∧
      (ObjectStorageOptions.schema.build (namedCalls .objectStorage)).map .ofRecord = .ok o := by
    intro o ho
    cases ho
    exact ⟨List.mem_cons_self, rfl⟩
  have hts : ∀ t ∈ namedTransforms, Adaptation (some namedStorage) t := by
    simp only [namedTransforms, List.forall_mem_cons]
    exact ⟨.evaluation, .externalStorage _ rfl, .highAvailability _, .productized _,
      List.forall_mem_nil _⟩
  cases hassemble : Bundle.assemble (Bundle.ofComponents (fun _ => []) namedCalls
      (.objectStorage :: Component.core)) with
  | error e =>
      rw [hassemble] at hassembled
      cases hassembled
  | ok b =>
      obtain ⟨b', happly, hb'⟩ := Bundle.coherent_of_adaptations (List.subset_cons_self _ _)
        (List.Subset.refl _) hassemble hstorage hts
      exact ⟨b, b', rfl, happly, hb'⟩

end ApiPlatform
