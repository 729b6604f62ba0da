import ApiPlatform.Proofs.Gateway.Placing
import ApiPlatform.Proofs.Template.References
/-!
# How the objects of a gateway hang together

The objects of a gateway are made apart from each other and find each other by texts: labels, names
of ports, names of objects and a key of a Secret.  Whatever the gateway states or leaves out, they
belong to it, and what one of them refers to is declared by the other one.  They are refused for the
first of four requirements that is not met.
-/

namespace ApiPlatform

namespace Container

/-- The names of the ports that a container declares. -/
def portNames (c : Container) : List String := (c.ports.getD []).filterMap (·.name)

/-- A check asks for a path over a port that the container declares by name. -/
def Answers (c : Container) (check : Option Probe) : Prop :=
  ∃ probe action port, check = some probe ∧ probe.httpGet = some action ∧
    action.port = .named port ∧ port ∈ c.portNames

end Container

/-- Where an ingress leads to, by its rules or without one. -/
def Ingress.backends (i : Ingress) : List IngressBackend :=
  (i.spec.bind (·.defaultBackend)).toList ++
    ((i.spec.bind (·.rules)).getD []).flatMap fun rule => (rule.http.getD []).map (·.backend)

namespace Gateway

variable {g : Gateway} {c : AdminPortalCredentials} {objects : DesiredObjects}
  {ns uid endpoint : String}

/-! ## What is required -/

/-- How many pods are asked for. -/
def podCount (g : Gateway) : Int64 := g.spec.replicas.getD 1

/-- The number of pods is a signed number of 32 bits. -/
def PodsFit (g : Gateway) : Prop :=
  -2147483648 ≤ g.podCount.toInt ∧ g.podCount.toInt ≤ 2147483647

instance (g : Gateway) : Decidable g.PodsFit := inferInstanceAs (Decidable (_ ∧ _))

/-- What it takes to make the objects of a gateway. -/
structure Buildable (g : Gateway) (c : AdminPortalCredentials) : Prop where
  «namespace» : g.metadata.namespace.isSome
  uid : g.metadata.uid.isSome
  endpoint : ∃ text, c.endpoint = .ok text
  pods : g.PodsFit

/-- The first requirement that is not met, and how that is reported. -/
inductive Refused (g : Gateway) (c : AdminPortalCredentials) : DesiredError → Prop
  | missingNamespace (hns : g.metadata.namespace = none) :
      Refused g c (.missingNamespace g.anyName)
  | missingUid (hns : g.metadata.namespace.isSome) (huid : g.metadata.uid = none) :
      Refused g c (.owner (.missingKey "uid"))
  | endpoint (e : EndpointError) (hns : g.metadata.namespace.isSome) (huid : g.metadata.uid.isSome)
      (hendpoint : c.endpoint = .error e) : Refused g c (.endpoint e)
  | replicas (hns : g.metadata.namespace.isSome) (huid : g.metadata.uid.isSome)
      (hendpoint : ∃ text, c.endpoint = .ok text) (hpods : ¬ g.PodsFit) :
      Refused g c (.replicasOutOfRange g.podCount)

/-- A gateway as the owner that controls its objects. -/
def controller (g : Gateway) (uid : String) : OwnerReference :=
  { apiVersion, controller := some true, kind := kindName, name := g.anyName, uid }

theorem ownerReference_eq (g : Gateway) :
    Kind.gateway.ownerReference g none (some true) =
      (OwnerDraft.need "uid" g.metadata.uid).map g.controller := by
  change (OwnerDraft.need "uid" g.metadata.uid).bind _ = _
  cases g.metadata.uid <;> rfl

theorem replicaCount_eq (g : Gateway) :
    g.replicaCount =
      if g.PodsFit then .ok g.podCount.toInt32 else .error (.replicasOutOfRange g.podCount) :=
  rfl

/-- The objects of a gateway that has what it takes. -/
def objectsFor (g : Gateway) (ns uid endpoint : String) : DesiredObjects where
  adminPortalEndpoint := g.endpointSecret ns endpoint (g.controller uid)
  deployment := g.deployment ns g.podCount.toInt32 (g.controller uid)
  service := g.service ns (g.controller uid)
  ingress := g.spec.exposedHostname.map fun host => g.ingressFor ns host (g.controller uid)

theorem desired_of_refused {e : DesiredError} (h : g.Refused c e) : g.desired c = .error e := by
  unfold desired
  rw [ownerReference_eq, replicaCount_eq]
  cases h with
  | missingNamespace hns => rw [hns]; rfl
  | missingUid hns huid =>
      obtain ⟨ns, hns⟩ := Option.isSome_iff_exists.1 hns
      rw [hns, huid]
      rfl
  | endpoint e hns huid hendpoint =>
      obtain ⟨ns, hns⟩ := Option.isSome_iff_exists.1 hns
      obtain ⟨uid, huid⟩ := Option.isSome_iff_exists.1 huid
      rw [hns, huid, hendpoint]
      rfl
  | replicas hns huid hendpoint hpods =>
      obtain ⟨ns, hns⟩ := Option.isSome_iff_exists.1 hns
      obtain ⟨uid, huid⟩ := Option.isSome_iff_exists.1 huid
      obtain ⟨endpoint, hendpoint⟩ := hendpoint
      rw [hns, huid, hendpoint, if_neg hpods]
      rfl

theorem Buildable.exists_desired (h : g.Buildable c) :
    ∃ ns uid endpoint, g.metadata.namespace = some ns ∧ g.metadata.uid = some uid ∧
      c.endpoint = .ok endpoint ∧ g.desired c = .ok (g.objectsFor ns uid endpoint) := by
  obtain ⟨ns, hns⟩ := Option.isSome_iff_exists.1 h.namespace
  obtain ⟨uid, huid⟩ := Option.isSome_iff_exists.1 h.uid
  obtain ⟨endpoint, hendpoint⟩ := h.endpoint
  refine ⟨ns, uid, endpoint, hns, huid, hendpoint, ?_⟩
  unfold desired
  rw [ownerReference_eq, replicaCount_eq, hns, huid, hendpoint, if_pos h.pods]
  rfl

/-- A gateway that does not meet all requirements has a first one that it does not meet. -/
theorem buildable_or_refused (g : Gateway) (c : AdminPortalCredentials) :
    g.Buildable c ∨ ∃ e, g.Refused c e := by
  by_cases hns : g.metadata.namespace = none
  · exact .inr ⟨_, .missingNamespace hns⟩
  by_cases huid : g.metadata.uid = none
  · exact .inr ⟨_, .missingUid (Option.isSome_iff_ne_none.2 hns) huid⟩
  rw [← ne_eq, ← Option.isSome_iff_ne_none] at hns huid
  cases hendpoint : c.endpoint with
  | error e => exact .inr ⟨_, .endpoint e hns huid hendpoint⟩
  | ok endpoint =>
      by_cases hpods : g.PodsFit
      · exact .inl ⟨hns, huid, ⟨endpoint, hendpoint⟩, hpods⟩
      · exact .inr ⟨_, .replicas hns huid ⟨endpoint, hendpoint⟩ hpods⟩

theorem desired_eq_error_iff {e : DesiredError} : g.desired c = .error e ↔ g.Refused c e := by
  refine ⟨fun h => ?_, desired_of_refused⟩
  obtain hbuildable | ⟨e', hrefused⟩ := buildable_or_refused g c
  · obtain ⟨_, _, _, _, _, _, hok⟩ := hbuildable.exists_desired
    cases h.symm.trans hok
  · cases h.symm.trans (desired_of_refused hrefused)
    exact hrefused

theorem buildable_of_desired (h : g.desired c = .ok objects) : g.Buildable c := by
  obtain hbuildable | ⟨e, hrefused⟩ := buildable_or_refused g c
  · exact hbuildable
  · cases h.symm.trans (desired_of_refused hrefused)

/-! ## How the objects refer to each other -/

/-- The variable under which a gateway finds its portal. -/
def endpointVariable : String := "THREESCALE_PORTAL_ENDPOINT"

/-- Objects that belong to a gateway and find each other. -/
structure Wired (g : Gateway) (c : AdminPortalCredentials) (objects : DesiredObjects) : Prop where
  /-- All of them lie in the namespace of the gateway. -/
  located : ∀ w ∈ objects.wanted,
    (w.kind.kind.metadata w.object).namespace = g.metadata.namespace
  /-- The gateway is their only owner, and controls them. -/
  owned : ∀ w ∈ objects.wanted, ∃ uid, g.metadata.uid = some uid ∧
    (w.kind.kind.metadata w.object).ownerReferences = some [g.controller uid]
  /-- Deployment and service select by the same labels, and by at least one. -/
  selectors : ∃ labels, objects.deployment.spec.bind (·.selector) = some labels ∧
    objects.service.spec.bind (·.selector) = some labels ∧ labels.entries ≠ []
  /-- The pods carry these labels. -/
  selected : ∀ e ∈ (Resource.service objects.service).selector.entries,
    (Resource.deployment objects.deployment).podLabels.get? e.1 = some e.2
  /-- Each port of the service leads to a port that a container declares by name. -/
  targets : ∀ p ∈ (Resource.service objects.service).servicePorts, ∃ name,
    p.target? = some name ∧ name ∈ (Resource.deployment objects.deployment).portNames
  /-- There is one container, and it is checked over ports that it declares. -/
  checks : ∃ k, (Resource.deployment objects.deployment).mainContainers = [k] ∧
    k.Answers k.readinessProbe ∧ k.Answers k.livenessProbe
  /-- There are as many pods as the gateway asks for. -/
  pods : ∃ n, objects.deployment.spec.bind (·.replicas) = some n ∧ n.toInt = g.podCount.toInt
  /-- There is an ingress if the gateway is to be reached from outside. -/
  exposed : objects.ingress.isSome = g.spec.exposedHostname.isSome
  /-- The ingress leads to ports that the service declares, and nowhere else. -/
  backends : ∀ i ∈ objects.ingress, i.backends ≠ [] ∧ ∀ b ∈ i.backends, b.resource = none ∧
    ∃ s, b.service = some s ∧ objects.service.metadata.name = some s.name ∧
      ∃ port name, s.port = some port ∧ port.name = some name ∧
        ∃ p ∈ (Resource.service objects.service).servicePorts, p.name = some name
  /-- The portal is looked for once, in the Secret, under a key that holds the endpoint. -/
  portal : ∃ secret key text, objects.adminPortalEndpoint.metadata.name = some secret ∧
    objects.adminPortalEndpoint.strings.get? key = some text ∧ c.endpoint = .ok text ∧
    ∀ k ∈ (Resource.deployment objects.deployment).mainContainers,
      (k.env.getD []).filter (·.name = endpointVariable) = [.ofSecret endpointVariable secret key]

@[simp] theorem portNames_container (g : Gateway) :
    g.container.portNames = [proxyPort, managementPort] := by
  unfold container
  cases g.spec.environmentSecret <;> rfl

theorem env_container (g : Gateway) :
    g.container.env = some
      [.ofSecret endpointVariable g.endpointSecretName endpointKey,
        .literal "THREESCALE_DEPLOYMENT_ENV" "production",
        .literal "APICAST_CONFIGURATION_LOADER" "boot",
        .literal "APICAST_CONFIGURATION_CACHE" "300"] := by
  unfold container
  cases g.spec.environmentSecret <;> rfl

theorem answers_healthProbe (g : Gateway) (path : String) (initialDelay period : Int32) :
    g.container.Answers (some (healthProbe path initialDelay period)) :=
  ⟨_, _, managementPort, rfl, rfl, rfl, by simp⟩

theorem answers_probes (g : Gateway) :
    g.container.Answers g.container.readinessProbe ∧
      g.container.Answers g.container.livenessProbe := by
  have hready : g.container.readinessProbe = some (healthProbe "/status/ready" 15 30) := by
    unfold container
    cases g.spec.environmentSecret <;> rfl
  have hlive : g.container.livenessProbe = some (healthProbe "/status/live" 10 10) := by
    unfold container
    cases g.spec.environmentSecret <;> rfl
  rw [hready, hlive]
  exact ⟨answers_healthProbe _ _ _ _, answers_healthProbe _ _ _ _⟩

theorem toInt_toInt32_podCount (h : g.PodsFit) :
    g.podCount.toInt32.toInt = g.podCount.toInt := by
  rw [Int64.toInt_toInt32]
  exact Int.bmod_eq_of_le h.1 (Int.lt_add_one_of_le h.2)

theorem metadata_wanted_objectsFor (g : Gateway) (ns uid endpoint : String) :
    ∀ w ∈ (g.objectsFor ns uid endpoint).wanted, ∃ name,
      w.kind.kind.metadata w.object = objectMeta ns name (g.controller uid) := by
  rw [DesiredObjects.forall_mem_wanted]
  refine ⟨⟨_, rfl⟩, ⟨_, rfl⟩, ⟨_, rfl⟩, fun ingress hingress => ?_⟩
  obtain ⟨host, -, rfl⟩ := Option.map_eq_some_iff.1 hingress
  exact ⟨_, rfl⟩

theorem wired_objectsFor (hns : g.metadata.namespace = some ns) (huid : g.metadata.uid = some uid)
    (hendpoint : c.endpoint = .ok endpoint) (hpods : g.PodsFit) :
    g.Wired c (g.objectsFor ns uid endpoint) where
  located w hw := by
    obtain ⟨name, hmeta⟩ := metadata_wanted_objectsFor g ns uid endpoint w hw
    rw [hmeta, hns]
    rfl
  owned w hw := by
    obtain ⟨name, hmeta⟩ := metadata_wanted_objectsFor g ns uid endpoint w hw
    exact ⟨uid, huid, by rw [hmeta]; rfl⟩
  selectors := ⟨Labels.workloadSelector g.workloadName, rfl, rfl, List.cons_ne_nil _ _⟩
  selected e he := by
    obtain rfl : e = (Labels.workloadKey, g.workloadName) := List.mem_singleton.1 he
    exact Labels.get?_workloadKey_pod objectLabels g.workloadName
  targets p hp := by
    have hports : (Resource.deployment (g.objectsFor ns uid endpoint).deployment).portNames =
        [proxyPort, managementPort] :=
      (List.append_nil _).trans (portNames_container g)
    rw [hports]
    obtain rfl | hp := List.mem_cons.1 hp
    · exact ⟨proxyPort, rfl, by simp⟩
    · obtain rfl := List.mem_singleton.1 hp
      exact ⟨managementPort, rfl, by simp⟩
  checks := ⟨g.container, rfl, answers_probes g⟩
  pods := ⟨g.podCount.toInt32, rfl, toInt_toInt32_podCount hpods⟩
  exposed := Option.isSome_map
  backends i hi := by
    obtain ⟨host, -, rfl⟩ := Option.map_eq_some_iff.1 hi
    refine ⟨by simp [Ingress.backends, ingressFor], fun b hb => ?_⟩
    obtain rfl := List.mem_singleton.1 hb
    exact ⟨rfl, _, rfl, rfl, _, proxyPort, rfl, rfl, _, List.mem_cons_self, rfl⟩
  portal := by
    refine ⟨g.endpointSecretName, endpointKey, endpoint, rfl, ?_, hendpoint, fun k hk => ?_⟩
    · change (SortedMap.ofList [(endpointKey, endpoint)]).get? endpointKey = some endpoint
      simp [SortedMap.ofList, SortedMap.insertMany]
    · obtain rfl := List.mem_singleton.1 hk
      rw [env_container]
      rfl

/-- The objects of a gateway are made exactly if the gateway has a namespace and an identifier, its
portal has an endpoint and the number of pods is one of 32 bits; else the first of these that does
not hold is reported.  Objects that are made belong to the gateway and find each other. -/
theorem desired_wired_or_refused (g : Gateway) (c : AdminPortalCredentials) :
    ((∃ objects, g.desired c = .ok objects) ↔ g.Buildable c) ∧
      (∀ e, g.desired c = .error e ↔ g.Refused c e) ∧
      ∀ objects, g.desired c = .ok objects → g.Wired c objects := by
  refine ⟨⟨fun ⟨_, h⟩ => buildable_of_desired h, fun h => ?_⟩, fun e => desired_eq_error_iff,
    fun objects hobjects => ?_⟩
  · obtain ⟨_, _, _, _, _, _, hok⟩ := h.exists_desired
    exact ⟨_, hok⟩
  · have hbuildable := buildable_of_desired hobjects
    obtain ⟨ns, uid, endpoint, hns, huid, hendpoint, hok⟩ := hbuildable.exists_desired
    cases hok.symm.trans hobjects
    exact wired_objectsFor hns huid hendpoint hbuildable.pods

/-- A gateway that is reached from outside and states no number of pods. -/
def exposedGateway : Gateway :=
  { metadata := { name := some "edge", «namespace» := some "apis", uid := some "u" }
    spec := { exposedHostname := some "h" } }

theorem exposedGateway_wired :
    ∃ objects, exposedGateway.desired ⟨"a://b", "t"⟩ = .ok objects ∧ objects.ingress.isSome ∧
      exposedGateway.Wired ⟨"a://b", "t"⟩ objects := by
  obtain ⟨hbuilt, -, hwired⟩ := desired_wired_or_refused exposedGateway ⟨"a://b", "t"⟩
  obtain ⟨objects, hobjects⟩ := hbuilt.2 ⟨rfl, rfl, ⟨"a://t@b", rfl⟩, by decide⟩
  exact ⟨objects, hobjects, (hwired objects hobjects).exposed, hwired objects hobjects⟩

end Gateway

end ApiPlatform
