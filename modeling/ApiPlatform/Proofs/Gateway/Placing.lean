import ApiPlatform.Gateway.Reconcile
import ApiPlatform.Proofs.Reconcile.Settling
/-!
# Placing the objects of a gateway

The objects are placed in a fixed order.  A run that places them settles all of them, or is stopped
by an injected failure after it has settled the first few.  They lie under different keys, so
settling one of them does not undo what was done for another one.
-/

namespace ApiPlatform

/-- An object with the part that it plays for a gateway. -/
structure Placement where
  part : GatewayPart
  wanted : WantedObject

namespace Placement

variable {p : Placement} {ps : List Placement} {key : StoreKey} {s : MemoryStore}

/-- Puts the object in place. -/
def run (p : Placement) : StoreM GatewayError Unit :=
  Gateway.place p.part p.wanted.kind p.wanted.object

/-- Puts objects in place, one after the other. -/
def runAll : List Placement → StoreM GatewayError Unit
  | [] => pure ()
  | p :: ps => do
    p.run
    runAll ps

theorem exec_run (p : Placement) (s : MemoryStore) :
    s.exec p.run =
      match s.exec p.wanted.reconcile with
      | (.ok _, t) => (.ok (), t)
      | (.error e, t) => (.error (.reconcileObject p.part e), t) := by
  unfold run Gateway.place
  rw [MemoryStore.exec_bind, MemoryStore.exec_mapError]
  unfold WantedObject.reconcile
  rcases s.exec (p.wanted.kind.reconcile p.wanted.object) with ⟨_ | _, t⟩ <;> rfl

/-- A run settles its object or is stopped by an injected failure. -/
theorem exec_run_cases (hs : s.Sound) (hkey : p.wanted.storeKey = .ok key) :
    ((s.exec p.run).1 = .ok () ∧ (s.exec p.run).2.contents = p.wanted.settle s.contents) ∨
      ∃ op ∈ s.failing, (s.exec p.run).1 = .error (.reconcileObject p.part (.injected op)) ∧
        (s.exec p.run).2.contents = s.contents := by
  have hran := WantedObject.ran_reconcile hs hkey
  rw [exec_run]
  rcases hexec : s.exec p.wanted.reconcile with ⟨e | o, t⟩
  · rw [hexec] at hran
    obtain ⟨hclear, op, hop, rfl⟩ := hran.fails
    exact .inr ⟨op, hop, rfl, MemoryStore.contents_eq_of_clearCalls_eq hclear⟩
  · rw [hexec] at hran
    refine .inl ⟨rfl, ?_⟩
    rw [← WantedObject.contents_settle]
    exact MemoryStore.contents_eq_of_clearCalls_eq (hran.settle hkey)

/-- A run for an object that is in place does no more than look. -/
theorem exec_run_of_settled (hs : s.Sound) (hget : .get ∉ s.failing) (h : p.wanted.Settled s) :
    ∃ key, s.exec p.run = (.ok (), s.record .get key) := by
  obtain ⟨key, hkey, live, hlive, hagrees⟩ := h
  have hran := WantedObject.ran_reconcile hs hkey
  refine ⟨key, ?_⟩
  rw [exec_run]
  rcases hexec : s.exec p.wanted.reconcile with ⟨e | o, t⟩ <;> rw [hexec] at hran
  · cases hran with
    | getFails h => exact absurd h hget
    | createFails _ _ hnone => simp [hlive] at hnone
    | updateFails live' _ _ hlive' hdiffers =>
        rw [hlive, Option.some_inj] at hlive'
        exact absurd (hlive' ▸ hagrees) hdiffers
  · cases hran with
    | created _ _ hnone => simp [hlive] at hnone
    | unchanged _ _ => rfl
    | updated live' _ _ hlive' hdiffers =>
        rw [hlive, Option.some_inj] at hlive'
        exact absurd (hlive' ▸ hagrees) hdiffers

/-- Objects are settled in order, up to the first one that an injected failure stops. -/
theorem exec_runAll_split (hs : s.Sound) (hkeys : ∀ p ∈ ps, ∃ key, p.wanted.storeKey = .ok key) :
    ((s.exec (runAll ps)).1 = .ok () ∧
        (s.exec (runAll ps)).2.contents = WantedObject.settleAll (ps.map (·.wanted)) s.contents) ∨
      ∃ before p after, ps = before ++ p :: after ∧ ∃ op ∈ s.failing,
        (s.exec (runAll ps)).1 = .error (.reconcileObject p.part (.injected op)) ∧
        (s.exec (runAll ps)).2.contents =
          WantedObject.settleAll (before.map (·.wanted)) s.contents := by
  induction ps generalizing s with
  | nil => exact .inl ⟨rfl, rfl⟩
  | cons p ps ih =>
      obtain ⟨⟨key, hkey⟩, hrest⟩ := List.forall_mem_cons.1 hkeys
      have hsound : (s.exec p.run).2.Sound := hs.run _
      have hfailing : (s.exec p.run).2.failing = s.failing := MemoryStore.failing_run _
      have hfirst := exec_run_cases hs hkey
      have hrec := ih hsound hrest
      rw [runAll, MemoryStore.exec_bind]
      rcases hexec : s.exec p.run with ⟨e | ⟨⟩, t⟩ <;> rw [hexec] at hfirst hfailing hrec
      · obtain ⟨hok, -⟩ | ⟨op, hop, herror, hcontents⟩ := hfirst
        · cases hok
        · cases herror
          exact .inr ⟨[], p, ps, rfl, op, hop, rfl, hcontents⟩
      · obtain ⟨-, hcontents⟩ | ⟨op, -, herror, -⟩ := hfirst
        · dsimp only at hcontents hfailing hrec ⊢
          rw [hcontents, hfailing] at hrec
          obtain hdone | ⟨before, q, after, rfl, op, hop, hresult, hstore⟩ := hrec
          · exact .inl hdone
          · exact .inr ⟨p :: before, q, after, rfl, op, hop, hresult, hstore⟩
        · cases herror

theorem exec_runAll_cases (hs : s.Sound) (hkeys : ∀ p ∈ ps, ∃ key, p.wanted.storeKey = .ok key) :
    ((s.exec (runAll ps)).1 = .ok () ∧
        (s.exec (runAll ps)).2.contents = WantedObject.settleAll (ps.map (·.wanted)) s.contents) ∨
      ∃ n part, ∃ op ∈ s.failing,
        (s.exec (runAll ps)).1 = .error (.reconcileObject part (.injected op)) ∧
        (s.exec (runAll ps)).2.contents =
          WantedObject.settleAll ((ps.map (·.wanted)).take n) s.contents := by
  obtain hdone | ⟨before, p, after, hps, op, hop, hresult, hstore⟩ := exec_runAll_split hs hkeys
  · exact .inl hdone
  · refine .inr ⟨before.length, p.part, op, hop, hresult, ?_⟩
    rw [hstore, ← List.map_take, hps, List.take_left]

theorem exec_runAll_of_settled (hs : s.Sound) (hget : .get ∉ s.failing)
    (h : ∀ p ∈ ps, p.wanted.Settled s) :
    ∃ calls, (∀ c ∈ calls, c.operation = .get) ∧
      s.exec (runAll ps) = (.ok (), { s with calls := s.calls ++ calls }) := by
  induction ps generalizing s with
  | nil => exact ⟨[], by simp, by simp [runAll]⟩
  | cons p ps ih =>
      obtain ⟨hp, hps⟩ := List.forall_mem_cons.1 h
      obtain ⟨key, hexec⟩ := exec_run_of_settled hs hget hp
      obtain ⟨calls, hcalls, hrest⟩ := ih (hs.record .get key) hget hps
      refine ⟨⟨.get, key⟩ :: calls, by simpa using hcalls, ?_⟩
      rw [runAll, MemoryStore.exec_bind, hexec]
      dsimp only
      rw [hrest]
      simp [MemoryStore.record]

end Placement

namespace DesiredObjects

/-- The objects in the order in which they are placed. -/
def placements (d : DesiredObjects) : List Placement :=
  ⟨.endpointSecret, ⟨.secret, d.adminPortalEndpoint⟩⟩ ::
  ⟨.deployment, ⟨.deployment, d.deployment⟩⟩ ::
  ⟨.service, ⟨.service, d.service⟩⟩ ::
  d.ingress.toList.map fun ingress => ⟨.ingress, ⟨.ingress, ingress⟩⟩

/-- The objects that are to be in the store. -/
def wanted (d : DesiredObjects) : List WantedObject := d.placements.map (·.wanted)

theorem forall_mem_wanted {d : DesiredObjects} {P : WantedObject → Prop} :
    (∀ w ∈ d.wanted, P w) ↔
      P ⟨.secret, d.adminPortalEndpoint⟩ ∧ P ⟨.deployment, d.deployment⟩ ∧
        P ⟨.service, d.service⟩ ∧ ∀ ingress ∈ d.ingress, P ⟨.ingress, ingress⟩ := by
  simp [wanted, placements]

theorem placeAll_eq (d : DesiredObjects) :
    Gateway.placeAll d = Placement.runAll d.placements := by
  obtain ⟨secret, deployment, service, ingress⟩ := d
  cases ingress with
  | none => rfl
  | some ingress =>
      simp only [placements, Option.toList_some, List.map_cons, List.map_nil, Placement.runAll,
        StoreM.bind_unit]
      rfl

end DesiredObjects

namespace Gateway

variable {g : Gateway} {c : AdminPortalCredentials} {objects : DesiredObjects} {ns : String}

theorem desired_cases (h : g.desired c = .ok objects) :
    ∃ ns endpoint replicas owner, g.metadata.namespace = some ns ∧
      objects =
        { adminPortalEndpoint := g.endpointSecret ns endpoint owner
          deployment := g.deployment ns replicas owner
          service := g.service ns owner
          ingress := g.spec.exposedHostname.map fun host => g.ingressFor ns host owner } := by
  unfold desired at h
  cases hns : g.metadata.namespace with
  | none =>
      rw [hns] at h
      cases h
  | some ns =>
      rw [hns] at h
      obtain ⟨_, ⟨⟩, h⟩ := Failure.bind_eq_ok.1 h
      obtain ⟨owner, -, h⟩ := Failure.bind_eq_ok.1 h
      obtain ⟨endpoint, -, h⟩ := Failure.bind_eq_ok.1 h
      obtain ⟨replicas, -, h⟩ := Failure.bind_eq_ok.1 h
      cases h
      exact ⟨ns, endpoint, replicas, owner, rfl, rfl⟩

/-- There is an ingress if the gateway is to be reached under a host. -/
theorem desired_ingress (h : g.desired c = .ok objects) :
    objects.ingress.isSome = g.spec.exposedHostname.isSome := by
  obtain ⟨_, _, _, _, _, rfl⟩ := desired_cases h
  simp

/-- Where the objects of a gateway belong. -/
theorem storeKey_wanted (h : g.desired c = .ok objects) (hns : g.metadata.namespace = some ns) :
    ∀ w ∈ objects.wanted,
      w.storeKey = .ok ⟨.secret, ns, g.endpointSecretName⟩ ∨
      ∃ k ∈ [Kind.deployment, .service, .ingress], w.storeKey = .ok ⟨k, ns, g.workloadName⟩ := by
  obtain ⟨ns', endpoint, replicas, owner, hns', rfl⟩ := desired_cases h
  rw [hns, Option.some_inj] at hns'
  subst hns'
  rw [DesiredObjects.forall_mem_wanted]
  refine ⟨.inl rfl, .inr ⟨.deployment, by simp, rfl⟩, .inr ⟨.service, by simp, rfl⟩, ?_⟩
  intro ingress hingress
  obtain ⟨host, -, rfl⟩ := Option.map_eq_some_iff.1 hingress
  exact .inr ⟨.ingress, by simp, rfl⟩

theorem exists_storeKey_wanted (h : g.desired c = .ok objects) :
    ∀ w ∈ objects.wanted, ∃ key, w.storeKey = .ok key := by
  obtain ⟨ns, -, -, -, hns, -⟩ := desired_cases h
  intro w hw
  obtain hkey | ⟨k, -, hkey⟩ := storeKey_wanted h hns w hw
  · exact ⟨_, hkey⟩
  · exact ⟨_, hkey⟩

/-- No two objects of a gateway are of one kind. -/
theorem pairwise_storeKey_wanted (objects : DesiredObjects) :
    objects.wanted.Pairwise fun w w' => w.storeKey ≠ w'.storeKey := by
  have hkinds : objects.wanted.Pairwise fun w w' => w.kind.kind ≠ w'.kind.kind := by
    obtain ⟨secret, deployment, service, _ | ingress⟩ := objects <;>
      simp [DesiredObjects.wanted, DesiredObjects.placements]
  exact hkinds.imp fun hne heq => hne (Kind.eq_of_storeKey_eq heq)

end Gateway

end ApiPlatform
