import ApiPlatform.Proofs.Store.Kept
import ApiPlatform.Proofs.Text.Utf8
import ApiPlatform.Reconcile.Significant
/-!
# Agreement in the significant fields

`ManagedKind.Agrees wanted live` says kind by kind what the significant fields are.  Copying finds
a difference exactly where two objects do not agree (`ManagedKind.copyOnto_snd_eq_nil_iff`), makes
them agree (`ManagedKind.agrees_copyOnto`), and what a store does to an object that it keeps does
not undo that (`ManagedKind.agrees_keptObject`).
-/

namespace ApiPlatform

/-- The labels of the pods of a Deployment. -/
def Deployment.podLabels? (d : Deployment) : Option Labels :=
  ((d.spec.map (·.template)).bind (·.metadata)).bind (·.labels)

/-- The pods of a Deployment. -/
def Deployment.pod? (d : Deployment) : Option PodSpec := (d.spec.map (·.template)).bind (·.spec)

/-- The first container of a Deployment. -/
def Deployment.firstContainer? (d : Deployment) : Option Container :=
  d.pod?.bind (·.containers.head?)

/-- Pod labels and account are equal, and so are image and sources of variables of the first
container if one is wanted. -/
structure Deployment.Agrees (wanted live : Deployment) : Prop where
  podLabels : live.podLabels? = wanted.podLabels?
  account : live.pod?.bind (·.serviceAccountName) = wanted.pod?.bind (·.serviceAccountName)
  container : ∀ w, wanted.firstContainer? = some w →
    ∃ c, live.firstContainer? = some c ∧ c.image = w.image ∧ c.envFrom = w.envFrom

/-- The ports of a service. -/
def Service.ports? (s : Service) : Option (List ServicePort) := s.spec.bind (·.ports)

/-- The live object has the wanted value in every significant field. -/
def ManagedKind.Agrees : (m : ManagedKind) → (wanted live : m.kind.Object) → Prop
  | .deployment, (wanted : Deployment), (live : Deployment) => wanted.Agrees live
  | .service, (wanted : Service), (live : Service) => live.ports? = wanted.ports?
  | .ingress, (wanted : Ingress), (live : Ingress) => live.spec = wanted.spec
  | .route, (wanted : Route), (live : Route) => live.spec = wanted.spec
  | .secret, (wanted : Secret), (live : Secret) => live.strings = wanted.strings
  | .configMap, (wanted : ConfigMap), (live : ConfigMap) => live.data = wanted.data

/-! ## Secrets -/

/-- Keeping the texts of a Secret as bytes does not change what it says. -/
@[simp] theorem Secret.strings_folded (s : Secret) : s.folded.strings = s.strings := by
  refine SortedMap.ext_get? fun key => ?_
  cases htexts : s.stringData with
  | none => simp [folded, strings, htexts]
  | some texts =>
      simp only [folded, strings, htexts, Option.getD_some, Option.getD_none,
        SortedMap.get?_union, SortedMap.get?_mapValues, SortedMap.get?_empty, Option.none_or]
      cases texts.get? key <;> simp

theorem Secret.strings_copyOnto (wanted live : Secret) :
    (wanted.copyOnto live).1.strings = wanted.strings := by
  unfold copyOnto
  split_ifs with h
  · exact h
  · refine SortedMap.ext_get? fun key => ?_
    simp [strings]

/-! ## Deployments -/

@[simp] theorem changedFields_eq_nil_iff {tests : List (SignificantField × Bool)} :
    changedFields tests = [] ↔ ∀ t ∈ tests, t.2 = false := by
  simp [changedFields, List.filter_eq_nil_iff]

theorem Container.copyOntoFirst_agrees (wanted : Option Container) (live : List Container) :
    ∀ w, wanted = some w → ∃ c, (copyOntoFirst wanted live).1.head? = some c ∧
      c.image = w.image ∧ c.envFrom = w.envFrom := by
  rintro w rfl
  cases live with
  | nil => exact ⟨w, rfl, rfl, rfl⟩
  | cons c rest => exact ⟨_, rfl, rfl, rfl⟩

theorem Container.copyOntoFirst_same_iff (wanted : Option Container) (live : List Container) :
    ((copyOntoFirst wanted live).2.1 = false ∧ (copyOntoFirst wanted live).2.2 = false) ↔
      ∀ w, wanted = some w → ∃ c, live.head? = some c ∧
        c.image = w.image ∧ c.envFrom = w.envFrom := by
  cases wanted with
  | none => simp [copyOntoFirst]
  | some w =>
      cases live with
      | nil => simp [copyOntoFirst]
      | cons c rest => simp [copyOntoFirst]

theorem Deployment.agrees_copyOnto (wanted live : Deployment) :
    wanted.Agrees (wanted.copyOnto live).1 where
  podLabels := rfl
  account := rfl
  container := Container.copyOntoFirst_agrees _ _

/-- An absent part counts as its empty default. -/
theorem Deployment.podLabels?_eq (d : Deployment) :
    d.podLabels? = ((d.spec.getD {}).template.metadata.getD {}).labels := by
  obtain ⟨metadata, _ | ⟨replicas, selector, _ | podMeta, pod⟩, status⟩ := d <;> rfl

theorem Deployment.account?_eq (d : Deployment) :
    d.pod?.bind (·.serviceAccountName) =
      ((d.spec.getD {}).template.spec.getD {}).serviceAccountName := by
  obtain ⟨metadata, _ | ⟨replicas, selector, podMeta, _ | pod⟩, status⟩ := d <;> rfl

theorem Deployment.firstContainer?_eq (d : Deployment) :
    d.firstContainer? = ((d.spec.getD {}).template.spec.getD {}).containers.head? := by
  obtain ⟨metadata, _ | ⟨replicas, selector, podMeta, _ | pod⟩, status⟩ := d <;> rfl

theorem Deployment.copyOnto_snd_eq_nil_iff (wanted live : Deployment) :
    (wanted.copyOnto live).2 = [] ↔ wanted.Agrees live := by
  have hcontainer := Container.copyOntoFirst_same_iff wanted.firstContainer?
    ((live.spec.getD {}).template.spec.getD {}).containers
  rw [← firstContainer?_eq live] at hcontainer
  unfold copyOnto
  simp only [changedFields_eq_nil_iff, List.forall_mem_cons, List.not_mem_nil, false_imp_iff,
    implies_true, and_true, decide_eq_false_iff_not, ne_eq, not_not]
  constructor
  · rintro ⟨hlabels, henvFrom, himage, haccount⟩
    exact ⟨(podLabels?_eq live).trans hlabels, (account?_eq live).trans haccount,
      hcontainer.1 ⟨himage, henvFrom⟩⟩
  · rintro ⟨hlabels, haccount, hfirst⟩
    obtain ⟨himage, henvFrom⟩ := hcontainer.2 hfirst
    exact ⟨(podLabels?_eq live).symm.trans hlabels, henvFrom, himage,
      (account?_eq live).symm.trans haccount⟩

namespace ManagedKind

variable (m : ManagedKind)

@[simp] theorem metadata_copyOnto (wanted live : m.kind.Object) :
    m.kind.metadata (m.copyOnto wanted live).1 = m.kind.metadata live := by
  cases m with
  | secret =>
      change ((wanted : Secret).copyOnto live).1.metadata = (live : Secret).metadata
      unfold Secret.copyOnto
      split_ifs <;> rfl
  | _ => rfl

theorem agrees_copyOnto (wanted live : m.kind.Object) :
    m.Agrees wanted (m.copyOnto wanted live).1 := by
  cases m with
  | deployment => exact Deployment.agrees_copyOnto wanted live
  | secret => exact Secret.strings_copyOnto wanted live
  | _ => rfl

theorem copyOnto_snd_eq_nil_iff (wanted live : m.kind.Object) :
    (m.copyOnto wanted live).2 = [] ↔ m.Agrees wanted live := by
  cases m with
  | deployment => exact Deployment.copyOnto_snd_eq_nil_iff wanted live
  | secret =>
      change (Secret.copyOnto wanted live).2 = [] ↔ Secret.strings live = Secret.strings wanted
      unfold Secret.copyOnto
      split_ifs with h <;> simp [h]
  | service =>
      change (Service.copyOnto wanted live).2 = [] ↔ Service.ports? live = Service.ports? wanted
      rw [show Service.ports? live = ((live : Service).spec.getD {}).ports by
        unfold Service.ports?; cases (live : Service).spec <;> rfl]
      simp [Service.copyOnto, Service.ports?]
  | _ => simp [copyOnto, Ingress.copyOnto, Route.copyOnto, ConfigMap.copyOnto, Agrees]

theorem agrees_refl (wanted : m.kind.Object) : m.Agrees wanted wanted := by
  cases m with
  | deployment => exact ⟨rfl, rfl, fun w hw => ⟨w, hw, rfl, rfl⟩⟩
  | _ => rfl

/-- A store keeps the significant fields of an object. -/
theorem agrees_keptObject {wanted o : m.kind.Object} (version : Nat) (h : m.Agrees wanted o) :
    m.Agrees wanted (MemoryStore.keptObject m.kind o version) := by
  cases m with
  | deployment => exact ⟨h.podLabels, h.account, h.container⟩
  | secret => exact (Secret.strings_folded _).trans h
  | _ => exact h

end ManagedKind

end ApiPlatform
