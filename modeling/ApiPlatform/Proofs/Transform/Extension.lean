import ApiPlatform.Proofs.Template.References
import ApiPlatform.Transform.Evaluation
import ApiPlatform.Transform.ExternalStorage
import ApiPlatform.Transform.HighAvailability
import ApiPlatform.Transform.Productized
/-!
# Changes to objects

No transform takes away what an object is good for: its identity, its labels, its entries, its
ports and the labels of its pods.  Most leave its references as well; object storage adds some.
-/

namespace ApiPlatform.Resource

/-- The object `r'` can stand in for `r`. -/
structure Keeps (r r' : Resource) : Prop where
  key : r'.key = r.key
  labels : r'.labels = r.labels
  fields : r.fields ⊆ r'.fields
  portNames : r'.portNames = r.portNames
  podLabels : r'.podLabels = r.podLabels
  servicePorts : r'.servicePorts = r.servicePorts
  traffic : r'.traffic = r.traffic

/-- The object `r'` can stand in for `r`, and the only names that it adds are among `extra`. -/
structure Extends (extra : List Need) (r r' : Resource) : Prop extends Keeps r r' where
  sound : r.Sound → r'.Sound
  needs : r'.needs ⊆ r.needs ++ extra
  volumes : r'.volumes ⊆ r.volumes

variable {extra : List Need} {r r' : Resource} {n : Need}

theorem isWorkload_eq_of_key_eq (h : r'.key = r.key) : r'.isWorkload = r.isWorkload :=
  congrArg (fun k : ObjectKey => k.kind.isWorkload) h

theorem name_eq_of_key_eq (h : r'.key = r.key) : r'.name = r.name :=
  congrArg ObjectKey.name h

theorem Keeps.meets (h : r.Keeps r') (hn : r.Meets n) : r'.Meets n := by
  have hworkload := isWorkload_eq_of_key_eq h.key
  cases n with
  | secretEntry name field => exact ⟨h.key.trans hn.1, h.fields hn.2⟩
  | configEntry name field => exact ⟨h.key.trans hn.1, h.fields hn.2⟩
  | configMap name => exact h.key.trans hn
  | claim name => exact h.key.trans hn
  | pods selector ports =>
      obtain ⟨hruns, hselected, hports⟩ := hn
      refine ⟨hworkload.trans hruns, ?_, ?_⟩
      · rw [h.podLabels]
        exact hselected
      · rw [h.portNames]
        exact hports
  | backend target port =>
      obtain ⟨hkind, hkey, hport⟩ := hn
      refine ⟨hkind, h.key.trans hkey, ?_⟩
      rw [h.servicePorts]
      exact hport

theorem Keeps.hasLabel {k : String} (h : r.Keeps r') (hk : r.HasLabel k) : r'.HasLabel k := by
  unfold HasLabel
  rw [h.labels]
  exact hk

theorem Keeps.trans {r'' : Resource} (h : r.Keeps r') (h' : r'.Keeps r'') : r.Keeps r'' where
  key := h'.key.trans h.key
  labels := h'.labels.trans h.labels
  fields := List.Subset.trans h.fields h'.fields
  portNames := h'.portNames.trans h.portNames
  podLabels := h'.podLabels.trans h.podLabels
  servicePorts := h'.servicePorts.trans h.servicePorts
  traffic := h'.traffic.trans h.traffic

theorem Extends.refl (r : Resource) : r.Extends extra r where
  key := rfl
  labels := rfl
  fields := List.Subset.refl _
  portNames := rfl
  podLabels := rfl
  servicePorts := rfl
  traffic := rfl
  sound h := h
  needs := List.subset_append_left _ _
  volumes := List.Subset.refl _

/-- A change that leaves variables, volumes and mounts alone. -/
theorem Keeps.extends (h : r.Keeps r') (env : r'.env = r.env) (volumes : r'.volumes = r.volumes)
    (mounts : r'.mounts = r.mounts) (hook : r'.hookVolumes = r.hookVolumes) :
    r.Extends extra r' where
  toKeeps := h
  sound hr := by
    refine ⟨h.hasLabel hr.app, h.hasLabel hr.component, ?_, ?_⟩
    · rw [mounts, volumes]
      exact hr.mounts
    · rw [hook, volumes]
      exact hr.hookVolumes
  needs := by
    unfold needs
    rw [env, volumes, h.traffic]
    exact List.subset_append_left _ _
  volumes := by
    rw [volumes]
    exact List.Subset.refl _

/-! ## Changes of pods -/

section Pods

variable (f : PodSpec → PodSpec) (r : Resource)

@[simp] theorem key_modifyPodSpec : (r.modifyPodSpec f).key = r.key := by
  cases r <;> rfl

@[simp] theorem labels_modifyPodSpec : (r.modifyPodSpec f).labels = r.labels := by
  cases r <;> rfl

@[simp] theorem fields_modifyPodSpec : (r.modifyPodSpec f).fields = r.fields := by
  cases r <;> rfl

@[simp] theorem hook?_modifyPodSpec : (r.modifyPodSpec f).hook? = r.hook? := by
  cases r <;> rfl

@[simp] theorem servicePorts_modifyPodSpec :
    (r.modifyPodSpec f).servicePorts = r.servicePorts := by
  cases r <;> rfl

@[simp] theorem traffic_modifyPodSpec : (r.modifyPodSpec f).traffic = r.traffic := by
  cases r <;> rfl

@[simp] theorem podSpec?_modifyPodSpec : (r.modifyPodSpec f).podSpec? = r.podSpec?.map f := by
  cases r with
  | deployment d => rcases d with ⟨_, _ | _, _⟩ <;> rfl
  | deploymentConfig d => rcases d with ⟨_, _, _, _, _, _ | _⟩ <;> rfl
  | _ => rfl

@[simp] theorem podLabels_modifyPodSpec : (r.modifyPodSpec f).podLabels = r.podLabels := by
  cases r with
  | deployment d => rcases d with ⟨_, _ | _, _⟩ <;> rfl
  | deploymentConfig d => rcases d with ⟨_, _, _, _, _, _ | _⟩ <;> rfl
  | _ => rfl

end Pods

/-- A change of pods that leaves the ports of containers alone. -/
theorem keeps_modifyPodSpec {f : PodSpec → PodSpec} (g : Container → Container)
    (hcontainers : ∀ p, (f p).containers = p.containers.map g)
    (hports : ∀ c, (g c).ports = c.ports) (r : Resource) : r.Keeps (r.modifyPodSpec f) where
  key := key_modifyPodSpec f r
  labels := labels_modifyPodSpec f r
  fields := (fields_modifyPodSpec f r).symm ▸ List.Subset.refl _
  portNames := by
    unfold portNames mainContainers
    cases hspec : r.podSpec? with
    | none => simp [hspec]
    | some p => simp [hspec, hcontainers, hports, List.flatMap_map]
  podLabels := podLabels_modifyPodSpec f r
  servicePorts := servicePorts_modifyPodSpec f r
  traffic := traffic_modifyPodSpec f r

end ApiPlatform.Resource
