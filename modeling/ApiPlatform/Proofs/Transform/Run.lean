import ApiPlatform.Proofs.Transform.Databases
import ApiPlatform.Proofs.Transform.Storage
/-!
# Running transforms

Each of the four transforms leaves an adaptable bundle adaptable, so a chain of them runs to its end
and its result is coherent.
-/

namespace ApiPlatform

open Catalog (HighAvailabilityOptions ObjectStorageOptions)

namespace Productized

variable {storage : Option ObjectStorageOptions} {b : Bundle} (o : ProductizedOptions)

theorem extends_redirectStream (c : Capabilities) (r : Resource) :
    r.Extends [] (redirectStream o c r) := by
  cases r with
  | imageStream s =>
      unfold redirectStream
      dsimp only
      split
      · exact Resource.Keeps.extends ⟨rfl, rfl, List.Subset.refl _, rfl, rfl, rfl, rfl⟩
          rfl rfl rfl rfl
      · exact .refl _
  | _ => exact .refl _

theorem adaptable_redirectDefaults (hb : b.Adaptable storage) :
    (redirectDefaults o b).Adaptable storage := by
  unfold redirectDefaults
  refine List.foldlRecOn (motive := fun b : Bundle => b.Adaptable storage) _ _ hb ?_
  intro b hb e _
  have hset : b.Extends [] (b.setDefault e.1 (some (o.image e.2))) := .of_objects_eq rfl rfl
  exact hset.adaptable hb (by simp)

theorem adaptable_run (hb : b.Adaptable storage) :
    ∃ b', (transform o).run b = .ok b' ∧ b'.Adaptable storage :=
  ⟨_, rfl, (Bundle.Extends.mapObjects (extends_redirectStream o _) _).adaptable
    (adaptable_redirectDefaults o hb) (by simp)⟩

end Productized

namespace Evaluation

variable {storage : Option ObjectStorageOptions} {b : Bundle}

theorem extends_relaxPod (r : Resource) : r.Extends [] (r.modifyPodSpec relaxPod) := by
  have hkeeps : r.Keeps (r.modifyPodSpec relaxPod) :=
    Resource.keeps_modifyPodSpec relax (fun _ => rfl) (fun _ => rfl) r
  have hcontainers : (r.modifyPodSpec relaxPod).containers = r.containers.map relax := by
    unfold Resource.containers Resource.mainContainers Resource.initContainers
    rw [Resource.podSpec?_modifyPodSpec]
    rcases r.podSpec? with _ | ⟨_, _ | _, _, _, _⟩ <;> simp [relaxPod]
  refine hkeeps.extends ?_ ?_ ?_ ?_
  · unfold Resource.env
    rw [hcontainers, List.flatMap_map, Resource.hook?_modifyPodSpec]
    rfl
  · unfold Resource.volumes
    rw [Resource.podSpec?_modifyPodSpec]
    cases r.podSpec? <;> rfl
  · unfold Resource.mounts
    rw [hcontainers, List.flatMap_map]
    rfl
  · unfold Resource.hookVolumes
    rw [Resource.hook?_modifyPodSpec]

theorem adaptable_run (hb : b.Adaptable storage) :
    ∃ b', transform.run b = .ok b' ∧ b'.Adaptable storage :=
  ⟨_, rfl, (Bundle.Extends.mapObjects extends_relaxPod b).adaptable hb (by simp)⟩

end Evaluation

/-- The transforms that variants are made of.  Files move to a storage whose credentials are
known. -/
inductive Adaptation (storage : Option ObjectStorageOptions) : Transform → Prop where
  | productized (o : ProductizedOptions) : Adaptation storage (Productized.transform o)
  | highAvailability (o : HighAvailabilityOptions) :
    Adaptation storage (HighAvailability.transform o)
  | externalStorage (o : ObjectStorageOptions) (known : o ∈ storage) :
    Adaptation storage (ExternalStorage.transform o)
  | evaluation : Adaptation storage Evaluation.transform

theorem Adaptation.adaptable_run {storage : Option ObjectStorageOptions} {t : Transform}
    {b : Bundle} (ht : Adaptation storage t) (hb : b.Adaptable storage) :
    ∃ b', t.run b = .ok b' ∧ b'.Adaptable storage := by
  cases ht with
  | productized o => exact Productized.adaptable_run o hb
  | highAvailability o => exact HighAvailability.adaptable_run o hb
  | externalStorage o known => exact ExternalStorage.adaptable_run hb known
  | evaluation => exact Evaluation.adaptable_run hb

namespace TransformChain

variable {storage : Option ObjectStorageOptions} {ts : List Transform} {t u : Transform}
variable {b : Bundle}

theorem mem_insertByStage : u ∈ insertByStage t ts ↔ u = t ∨ u ∈ ts := by
  induction ts with
  | nil => simp [insertByStage]
  | cons v ts ih =>
      unfold insertByStage
      split
      · simp
      · rw [List.mem_cons, List.mem_cons, ih, or_left_comm]

/-- A chain runs the transforms that were added to it and no other ones. -/
theorem mem_transforms_ofList : u ∈ (ofList ts).transforms ↔ u ∈ ts := by
  have hfold : ∀ c : TransformChain,
      u ∈ (ts.foldl add c).transforms ↔ u ∈ ts ∨ u ∈ c.transforms := by
    induction ts with
    | nil => simp
    | cons t ts ih =>
        intro c
        have hadd : u ∈ (c.add t).transforms ↔ u = t ∨ u ∈ c.transforms := mem_insertByStage
        rw [List.foldl_cons, ih, hadd, List.mem_cons, or_left_comm, or_assoc]
  simp [ofList, hfold]

section Preserved

variable {P : Bundle → Prop}

theorem exists_runAll (hts : ∀ t ∈ ts, ∀ b, P b → ∃ b', t.run b = .ok b' ∧ P b') (hb : P b) :
    ∃ b', runAll ts b = .ok b' ∧ P b' := by
  induction ts generalizing b with
  | nil => exact ⟨b, rfl, hb⟩
  | cons t ts ih =>
      obtain ⟨ht, hrest⟩ := List.forall_mem_cons.1 hts
      obtain ⟨b₁, hrun, hb₁⟩ := ht b hb
      obtain ⟨b₂, hall, hb₂⟩ := ih hrest hb₁
      refine ⟨b₂, ?_, hb₂⟩
      rw [runAll, hrun]
      exact hall

/-- What every transform preserves holds of the result of the chain, whichever are added. -/
theorem exists_apply (hts : ∀ t ∈ ts, ∀ b, P b → ∃ b', t.run b = .ok b' ∧ P b') (hb : P b) :
    ∃ b', (ofList ts).apply b = .ok b' ∧ P b' :=
  exists_runAll (fun _ ht => hts _ (mem_transforms_ofList.1 ht)) hb

end Preserved

/-- Whatever transforms are added, the chain runs to its end and leaves a bundle adaptable. -/
theorem adaptable_apply (hts : ∀ t ∈ ts, Adaptation storage t) (hb : b.Adaptable storage) :
    ∃ b', (ofList ts).apply b = .ok b' ∧ b'.Adaptable storage :=
  exists_apply (fun t ht _ hb => (hts t ht).adaptable_run hb) hb

end TransformChain

end ApiPlatform
