import ApiPlatform.Proofs.Reconcile.Agreement
/-!
# Copies that change no more than they have to

`ManagedKind.value?` reads a significant field and `ManagedKind.remainder` is what an object has
besides its significant fields.  Copying sets the fields that a wanted object states, names those
that differed, and keeps the remainder (`ManagedKind.copyOnto_changes_least`).
-/

namespace ApiPlatform

/-- What a significant field holds. -/
inductive FieldValue where
  | text (t : Option String)
  | texts (ts : Option (SortedMap String String))
  | sources (ss : Option (List EnvFrom))
  | ports (ps : Option (List ServicePort))
  | ingress (spec : Option IngressSpec)
  | route (spec : RouteSpec)
  deriving DecidableEq

namespace ManagedKind

/-- The value of a significant field, if the kind has the field.  The fields of the first container
have a value only where there is a container, and the texts of a Secret are those that it says. -/
def value? : (m : ManagedKind) → SignificantField → m.kind.Object → Option FieldValue
  | .deployment, .podLabels, (d : Deployment) => some (.texts d.podLabels?)
  | .deployment, .serviceAccount, (d : Deployment) =>
    some (.text (d.pod?.bind (·.serviceAccountName)))
  | .deployment, .image, (d : Deployment) => d.firstContainer?.map (.text ·.image)
  | .deployment, .envFrom, (d : Deployment) => d.firstContainer?.map (.sources ·.envFrom)
  | .service, .ports, (s : Service) => some (.ports s.ports?)
  | .ingress, .spec, (i : Ingress) => some (.ingress i.spec)
  | .route, .spec, (r : Route) => some (.route r.spec)
  | .secret, .stringData, (s : Secret) => some (.texts (some s.strings))
  | .configMap, .data, (c : ConfigMap) => some (.texts c.data)
  | _, _, _ => none

/-- The wanted object states a value of the field, and the live one has not this value. -/
def Differs (m : ManagedKind) (wanted live : m.kind.Object) (f : SignificantField) : Prop :=
  ∃ v, m.value? f wanted = some v ∧ m.value? f live ≠ some v

end ManagedKind

/-- The containers of a Deployment; an absent part counts as empty. -/
def Deployment.containers (d : Deployment) : List Container :=
  ((d.spec.getD {}).template.spec.getD {}).containers

/-! ## What is not significant -/

def Container.remainder (c : Container) : Container := { c with image := none, envFrom := none }

/-- A Deployment without pod labels, account, and image and sources of variables of its first
container.  Parts that are absent are written out as empty. -/
def Deployment.remainder (d : Deployment) : Deployment :=
  let spec := d.spec.getD {}
  let metadata := spec.template.metadata.getD {}
  let pod := spec.template.spec.getD {}
  { d with
    spec := some
      { spec with
        template :=
          { spec.template with
            metadata := some { metadata with labels := none }
            spec := some
              { pod with
                serviceAccountName := none
                containers := pod.containers.modifyHead Container.remainder } } } }

/-- The live Deployment, which gets the first wanted container as a whole if it has none. -/
def Deployment.seeded (wanted live : Deployment) : Deployment :=
  match wanted.firstContainer?, live.firstContainer? with
  | some w, none =>
    let spec := live.spec.getD {}
    let pod := spec.template.spec.getD {}
    { live with
      spec := some
        { spec with template := { spec.template with spec := some { pod with containers := [w] } } } }
  | _, _ => live

namespace ManagedKind

/-- What an object has besides its significant fields. -/
def remainder : (m : ManagedKind) → m.kind.Object → m.kind.Object
  | .deployment, (d : Deployment) => d.remainder
  | .service, (s : Service) => { s with spec := some { s.spec.getD {} with ports := none } }
  | .ingress, (i : Ingress) => { i with spec := none }
  | .route, (r : Route) => { r with spec := {} }
  | .secret, (s : Secret) => { s with data := none, stringData := none }
  | .configMap, (c : ConfigMap) => { c with data := none }

/-- What copying starts from. -/
def seeded : (m : ManagedKind) → (wanted live : m.kind.Object) → m.kind.Object
  | .deployment, (wanted : Deployment), (live : Deployment) => wanted.seeded live
  | .service, _, live => live
  | .ingress, _, live => live
  | .route, _, live => live
  | .secret, _, live => live
  | .configMap, _, live => live

/-- `changed` is `live` with the significant fields of `wanted` and nothing else of it, and `fields`
are the ones that differed, in the order of their paths. -/
structure MinimalCopy (m : ManagedKind) (wanted live changed : m.kind.Object)
    (fields : List SignificantField) : Prop where
  stated : ∀ f v, m.value? f wanted = some v → m.value? f changed = some v
  unstated : ∀ f, m.value? f wanted = none → m.value? f changed = m.value? f live
  remainder : m.remainder changed = m.remainder (m.seeded wanted live)
  metadata : m.kind.metadata changed = m.kind.metadata live
  named : ∀ f, f ∈ fields ↔ m.Differs wanted live f
  sorted : (fields.map (·.path)).Pairwise (compare · · = .lt)

end ManagedKind

@[simp] theorem mem_changedFields {tests : List (SignificantField × Bool)} {f : SignificantField} :
    f ∈ changedFields tests ↔ (f, true) ∈ tests := by
  simp [changedFields]

/-! ## Deployments -/

theorem Container.copyOntoFirst_differs (wanted : Option Container) (live : List Container) :
    ((copyOntoFirst wanted live).2.1 = true ↔
        ∃ w, wanted = some w ∧ live.head?.map (·.image) ≠ some w.image) ∧
      ((copyOntoFirst wanted live).2.2 = true ↔
        ∃ w, wanted = some w ∧ live.head?.map (·.envFrom) ≠ some w.envFrom) := by
  cases wanted with
  | none => simp [copyOntoFirst]
  | some w =>
      cases live with
      | nil => simp [copyOntoFirst]
      | cons c rest => simp [copyOntoFirst]

namespace Deployment

variable (wanted live : Deployment)

theorem copyOnto_fst :
    (wanted.copyOnto live).1 =
      { live with
        spec := some
          { live.spec.getD {} with
            template :=
              { metadata := some
                  { (live.spec.getD {}).template.metadata.getD {} with labels := wanted.podLabels? }
                spec := some
                  { (live.spec.getD {}).template.spec.getD {} with
                    serviceAccountName := wanted.pod?.bind (·.serviceAccountName)
                    containers :=
                      (Container.copyOntoFirst wanted.firstContainer? live.containers).1 } } } } :=
  rfl

theorem copyOnto_snd :
    (wanted.copyOnto live).2 =
      changedFields
        [(.podLabels, live.podLabels? ≠ wanted.podLabels?),
          (.envFrom, (Container.copyOntoFirst wanted.firstContainer? live.containers).2.2),
          (.image, (Container.copyOntoFirst wanted.firstContainer? live.containers).2.1),
          (.serviceAccount, live.pod?.bind (·.serviceAccountName) ≠
            wanted.pod?.bind (·.serviceAccountName))] := by
  rw [live.podLabels?_eq, live.account?_eq]
  rfl

theorem firstContainer?_eq_head? (d : Deployment) : d.firstContainer? = d.containers.head? :=
  d.firstContainer?_eq

theorem containers_copyOnto :
    (wanted.copyOnto live).1.containers =
      (Container.copyOntoFirst wanted.firstContainer? live.containers).1 := rfl

theorem remainder_copyOnto : (wanted.copyOnto live).1.remainder = (wanted.seeded live).remainder := by
  rw [copyOnto_fst]
  unfold seeded
  rw [live.firstContainer?_eq_head?]
  cases wanted.firstContainer? with
  | none => rfl
  | some w =>
      cases hlive : live.containers with
      | nil => rfl
      | cons c rest =>
          have hhead : (c :: rest).head? = some c := rfl
          unfold containers at hlive
          simp only [hhead, Container.copyOntoFirst, remainder, hlive]
          rfl

theorem mem_copyOnto_iff (f : SignificantField) :
    f ∈ (wanted.copyOnto live).2 ↔ ManagedKind.Differs .deployment wanted live f := by
  obtain ⟨himage, henvFrom⟩ :=
    Container.copyOntoFirst_differs wanted.firstContainer? live.containers
  rw [← live.firstContainer?_eq_head?] at himage henvFrom
  rw [copyOnto_snd, mem_changedFields]
  cases f with
  | podLabels => simp [ManagedKind.Differs, ManagedKind.value?]
  | serviceAccount => simp [ManagedKind.Differs, ManagedKind.value?]
  | image =>
      simp [ManagedKind.Differs, ManagedKind.value?, himage]
  | envFrom => simp [ManagedKind.Differs, ManagedKind.value?, henvFrom]
  | _ => simp [ManagedKind.Differs, ManagedKind.value?]

/-- Where there is no container the first wanted one is taken over as a whole. -/
theorem copyOnto_of_containers_eq_nil {w : Container} (hw : wanted.firstContainer? = some w)
    (hlive : live.containers = []) :
    (wanted.copyOnto live).1.containers = [w] ∧
      .image ∈ (wanted.copyOnto live).2 ∧ .envFrom ∈ (wanted.copyOnto live).2 := by
  rw [containers_copyOnto, copyOnto_snd, hw, hlive]
  simp [Container.copyOntoFirst]

end Deployment

/-! ## Secrets -/

namespace Secret

variable (wanted live : Secret)

theorem copyOnto_of_strings_eq (h : live.strings = wanted.strings) :
    wanted.copyOnto live = (live, []) := if_pos h

theorem copyOnto_of_strings_ne (h : live.strings ≠ wanted.strings) :
    wanted.copyOnto live =
      ({ live with data := none, stringData := some wanted.strings }, [.stringData]) := if_neg h

theorem copyOnto_snd :
    (wanted.copyOnto live).2 =
      changedFields [(.stringData, live.strings ≠ wanted.strings)] := by
  by_cases h : live.strings = wanted.strings
  · rw [copyOnto_of_strings_eq _ _ h]
    simp [changedFields, h]
  · rw [copyOnto_of_strings_ne _ _ h]
    simp [changedFields, h]

theorem copyOnto_snd_eq_nil_iff :
    (wanted.copyOnto live).2 = [] ↔ live.strings = wanted.strings :=
  ManagedKind.copyOnto_snd_eq_nil_iff .secret wanted live

theorem get?_strings_eq_none_iff (s : Secret) (key : String) :
    s.strings.get? key = none ↔
      (s.data.getD .empty).get? key = none ∧ (s.stringData.getD .empty).get? key = none := by
  simp [strings, and_comm]

end Secret

/-! ## All kinds -/

theorem sorted_changedFields {tests : List (SignificantField × Bool)}
    (h : (tests.map (·.1.path)).Pairwise (compare · · = .lt)) :
    ((changedFields tests).map (·.path)).Pairwise (compare · · = .lt) := by
  refine h.sublist ?_
  rw [changedFields, List.map_map]
  exact List.filter_sublist.map _

/-- An absent specification counts as empty. -/
theorem Service.ports?_eq (s : Service) : s.ports? = (s.spec.getD {}).ports := by
  unfold Service.ports?
  cases s.spec <;> rfl

namespace ManagedKind

variable {m : ManagedKind} {wanted live : m.kind.Object} {f : SignificantField} {v : FieldValue}

theorem value?_of_agrees (h : m.Agrees wanted live) (hv : m.value? f wanted = some v) :
    m.value? f live = some v := by
  cases m with
  | deployment =>
      obtain ⟨hlabels, haccount, hcontainer⟩ := h
      cases f with
      | podLabels => exact (congrArg (some ∘ FieldValue.texts) hlabels).trans hv
      | serviceAccount => exact (congrArg (some ∘ FieldValue.text) haccount).trans hv
      | image =>
          obtain ⟨w, hw, rfl⟩ := Option.map_eq_some_iff.1 hv
          obtain ⟨c, hc, himage, -⟩ := hcontainer w hw
          exact Option.map_eq_some_iff.2 ⟨c, hc, congrArg FieldValue.text himage⟩
      | envFrom =>
          obtain ⟨w, hw, rfl⟩ := Option.map_eq_some_iff.1 hv
          obtain ⟨c, hc, -, henvFrom⟩ := hcontainer w hw
          exact Option.map_eq_some_iff.2 ⟨c, hc, congrArg FieldValue.sources henvFrom⟩
      | _ => cases hv
  | service =>
      cases f with
      | ports => exact (congrArg (some ∘ FieldValue.ports) h).trans hv
      | _ => cases hv
  | ingress =>
      cases f with
      | spec => exact (congrArg (some ∘ FieldValue.ingress) h).trans hv
      | _ => cases hv
  | route =>
      cases f with
      | spec => exact (congrArg (some ∘ FieldValue.route) h).trans hv
      | _ => cases hv
  | secret =>
      cases f with
      | stringData => exact (congrArg (some ∘ FieldValue.texts ∘ some) h).trans hv
      | _ => cases hv
  | configMap =>
      cases f with
      | data => exact (congrArg (some ∘ FieldValue.texts) h).trans hv
      | _ => cases hv

variable (m wanted live)

/-- Only the fields of a container can be unstated in a kind that has them, and then no container is
wanted. -/
theorem value?_copyOnto_of_eq_none (h : m.value? f wanted = none) :
    m.value? f (m.copyOnto wanted live).1 = m.value? f live := by
  cases m with
  | deployment =>
      have hfirst (hw : Deployment.firstContainer? wanted = none) :
          (Deployment.copyOnto wanted live).1.firstContainer? =
            Deployment.firstContainer? live := by
        rw [Deployment.firstContainer?_eq_head?, Deployment.containers_copyOnto, hw,
          Deployment.firstContainer?_eq_head?]
        rfl
      cases f with
      | podLabels => cases h
      | serviceAccount => cases h
      | image => exact congrArg (Option.map _) (hfirst (Option.map_eq_none_iff.1 h))
      | envFrom => exact congrArg (Option.map _) (hfirst (Option.map_eq_none_iff.1 h))
      | _ => rfl
  | _ => cases f <;> first | rfl | cases h

theorem remainder_copyOnto :
    m.remainder (m.copyOnto wanted live).1 = m.remainder (m.seeded wanted live) := by
  cases m with
  | deployment => exact Deployment.remainder_copyOnto wanted live
  | secret =>
      change remainder .secret (Secret.copyOnto wanted live).1 = _
      by_cases h : Secret.strings live = Secret.strings wanted
      · rw [Secret.copyOnto_of_strings_eq _ _ h]
        rfl
      · rw [Secret.copyOnto_of_strings_ne _ _ h]
        rfl
  | _ => rfl

theorem mem_copyOnto_iff (f : SignificantField) :
    f ∈ (m.copyOnto wanted live).2 ↔ m.Differs wanted live f := by
  cases m with
  | deployment => exact Deployment.mem_copyOnto_iff wanted live f
  | service =>
      cases f with
      | ports =>
          have hwanted : (wanted : Service).spec.bind (·.ports) = Service.ports? wanted := rfl
          simp [copyOnto, Service.copyOnto, Differs, value?, Service.ports?_eq live, hwanted]
      | _ => simp [copyOnto, Service.copyOnto, Differs, value?]
  | secret =>
      change f ∈ (Secret.copyOnto wanted live).2 ↔ _
      rw [Secret.copyOnto_snd, mem_changedFields]
      cases f <;> simp [Differs, value?]
  | _ =>
      cases f <;>
        simp [copyOnto, Ingress.copyOnto, Route.copyOnto, ConfigMap.copyOnto, Differs, value?]

theorem sorted_copyOnto :
    ((m.copyOnto wanted live).2.map (·.path)).Pairwise (compare · · = .lt) := by
  cases m with
  | deployment =>
      have hpaths : ([.podLabels, .envFrom, .image, .serviceAccount].map
          SignificantField.path).Pairwise (compare · · = .lt) := by decide
      exact sorted_changedFields hpaths
  | secret =>
      change ((Secret.copyOnto wanted live).2.map (·.path)).Pairwise (compare · · = .lt)
      rw [Secret.copyOnto_snd]
      exact sorted_changedFields (List.pairwise_singleton _ _)
  | _ => exact sorted_changedFields (List.pairwise_singleton _ _)

theorem minimalCopy_copyOnto :
    m.MinimalCopy wanted live (m.copyOnto wanted live).1 (m.copyOnto wanted live).2 where
  stated _ _ := value?_of_agrees (m.agrees_copyOnto wanted live)
  unstated _ := value?_copyOnto_of_eq_none m wanted live
  remainder := m.remainder_copyOnto wanted live
  metadata := m.metadata_copyOnto wanted live
  named := m.mem_copyOnto_iff wanted live
  sorted := m.sorted_copyOnto wanted live

/-- Copying changes no more than it has to, in every kind.  A Deployment without containers takes
over the first wanted one, and a Secret that says something else is left with nothing but the wanted
texts. -/
theorem copyOnto_changes_least :
    (∀ (m : ManagedKind) (wanted live : m.kind.Object),
      m.MinimalCopy wanted live (m.copyOnto wanted live).1 (m.copyOnto wanted live).2) ∧
    (∀ (wanted live : Deployment) (w : Container), wanted.firstContainer? = some w →
      live.containers = [] →
        (wanted.copyOnto live).1.containers = [w] ∧
          .image ∈ (wanted.copyOnto live).2 ∧ .envFrom ∈ (wanted.copyOnto live).2) ∧
    ∀ wanted live : Secret,
      ((wanted.copyOnto live).2 = [] → (wanted.copyOnto live).1 = live) ∧
      ((wanted.copyOnto live).2 ≠ [] → (wanted.copyOnto live).1.data = none ∧
        (wanted.copyOnto live).1.stringData = some wanted.strings) ∧
      ∀ key, wanted.strings.get? key = none →
        ((wanted.copyOnto live).1.data.getD .empty).get? key = none ∧
          ((wanted.copyOnto live).1.stringData.getD .empty).get? key = none := by
  refine ⟨minimalCopy_copyOnto, fun wanted live w hw hlive =>
    wanted.copyOnto_of_containers_eq_nil live hw hlive, fun wanted live => ⟨?_, ?_, ?_⟩⟩
  · intro hnone
    have hsame := (wanted.copyOnto_snd_eq_nil_iff live).1 hnone
    rw [wanted.copyOnto_of_strings_eq live hsame]
  · intro hsome
    have hdiffers := mt (wanted.copyOnto_snd_eq_nil_iff live).2 hsome
    rw [wanted.copyOnto_of_strings_ne live hdiffers]
    exact ⟨rfl, rfl⟩
  · intro key hkey
    rwa [← Secret.get?_strings_eq_none_iff, Secret.strings_copyOnto]

-- an ingress is compared with all its parts, also with those that only a cluster fills in
example :
    copyOnto .ingress ({ spec := some {} } : Ingress)
        ({ spec := some { tls := some [{ hosts := some ["h"] }] } } : Ingress) =
      (({ spec := some {} } : Ingress), [.spec]) := rfl

end ManagedKind

end ApiPlatform
