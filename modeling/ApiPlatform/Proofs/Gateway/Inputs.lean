import ApiPlatform.Proofs.Gateway.Independence
/-!
# The Secrets that a gateway refers to

A run reads the Secrets that its gateway refers to, and writes one Secret, which it finds by the
name of the gateway.  Nothing keeps a gateway from referring to that one.  Every other Secret is
left as it was; that one is brought in line with the endpoint, and loses what else it held.
-/

namespace ApiPlatform.Gateway

variable {g : Gateway} {c : AdminPortalCredentials} {objects : DesiredObjects}
  {ns name : String} {s u : MemoryStore} {key : StoreKey}

/-- The key of the Secret that is made for a gateway. -/
def endpointSecretKey (g : Gateway) (ns : String) : StoreKey := ⟨.secret, ns, g.endpointSecretName⟩

/-- A run changes no Secret but the one that is made for its gateway. -/
theorem get?_exec_of_secret (hs : s.Sound) (hstored : s.object? .gateway ns name = some g)
    (hkind : key.kind = .secret) (hkey : key ≠ g.endpointSecretKey ns) :
    (s.exec (reconcile ns name)).2.objects.get? key = s.objects.get? key :=
  get?_exec_of_notMem_ownKeys hs hstored fun hmem => hkey (eq_of_mem_ownKeys hkind hmem)

/-- The Secret with the endpoint is placed first. -/
theorem settled_endpoint_of_placed {before rest : List Placement} (hs : s.Sound)
    (hobjects : g.desired c = .ok objects) (hsplit : objects.placements = before ++ rest) :
    before = [] ∨ (⟨.secret, objects.adminPortalEndpoint⟩ : WantedObject).Settled
      (WantedObject.settleAll (before.map (·.wanted)) s) := by
  cases before with
  | nil => exact .inl rfl
  | cons first before =>
      have hsettled := settled_placed hs hobjects hsplit first List.mem_cons_self
      obtain ⟨rfl, -⟩ := List.cons_eq_cons.1 hsplit.symm
      exact .inr hsettled

/-- Either nothing was placed, or the Secret with the endpoint was. -/
theorem Course.endpoint_cases {r : Except GatewayError ReconcileAction} {written : List StoreKey}
    (hs : s.Sound) (hstored : s.object? .gateway ns name = some g)
    (h : Course ns name s r written u) :
    u.objects.get? (g.endpointSecretKey ns) = s.objects.get? (g.endpointSecretKey ns) ∨
      ∃ objects, g.Prepared ns s objects ∧
        (⟨.secret, objects.adminPortalEndpoint⟩ : WantedObject).Settled u := by
  have hcontents : s.contents.Sound := hs.of_contents_eq rfl
  cases h with
  | missing _ => exact .inl rfl
  | failed _ _ => exact .inl rfl
  | defaulted _ _ =>
      refine .inl ?_
      rw [MemoryStore.get?_write, if_neg (by simp [endpointSecretKey])]
      rfl
  | stopped g' objects before p after source written hstored' hprepared hsplit _ =>
      obtain rfl : g = g' := Option.some.inj (hstored.symm.trans hstored')
      obtain ⟨c, hreads, hobjects⟩ := hprepared
      rcases settled_endpoint_of_placed hcontents hobjects hsplit with rfl | hsettled
      · exact .inl rfl
      · exact .inr ⟨objects, ⟨c, hreads, hobjects⟩, hsettled⟩
  | done g' objects written hstored' hprepared _ =>
      obtain rfl : g = g' := Option.some.inj (hstored.symm.trans hstored')
      obtain ⟨c, hreads, hobjects⟩ := hprepared
      rcases settled_endpoint_of_placed hcontents hobjects (List.append_nil _).symm with
        hnone | hsettled
      · cases hnone
      · exact .inr ⟨objects, ⟨c, hreads, hobjects⟩, hsettled⟩

/-- Whatever a store holds and refuses, a run leaves the Secrets that its gateway refers to as they
were, but for the one that is made for the gateway.  That one stays as well, or else agrees with
the Secret that is wanted. -/
theorem reconcile_keeps_references (hs : s.Reachable)
    (hg : s.peek .gateway ns name = .ok (some g)) :
    let t := (s.exec (reconcile ns name)).2
    (∀ key ∈ g.secretKeys ns, key ≠ g.endpointSecretKey ns →
        t.objects.get? key = s.objects.get? key) ∧
      (t.objects.get? (g.endpointSecretKey ns) = s.objects.get? (g.endpointSecretKey ns) ∨
        ∃ objects, g.Prepared ns s objects ∧
          (⟨.secret, objects.adminPortalEndpoint⟩ : WantedObject).Settled t) := by
  intro t
  have hsound := hs.sound
  have hstored : s.object? .gateway ns name = some g := by simpa [hsound.peek_eq] using hg
  have hcourse : Course ns name s _ _ t.contents := course_reconcile hsound ns name
  have hendpoint := hcourse.endpoint_cases hsound hstored
  refine ⟨fun key hkey hne => ?_, hendpoint⟩
  exact get?_exec_of_secret hsound hstored (kind_of_mem_secretKeys hkey) hne

theorem portalStore_keeps_references :
    (portalStore.exec (reconcile "apis" "edge")).2.objects.get? ⟨.secret, "apis", "portal"⟩ =
      portalStore.objects.get? ⟨.secret, "apis", "portal"⟩ :=
  (reconcile_keeps_references reachable_portalStore peek_portalStore).1 _ (by decide) (by decide)

/-! ## A gateway that refers to the Secret that is made for it -/

/-- What is in place has nothing but the endpoint in it. -/
theorem secretText?_of_settled (hobjects : g.desired c = .ok objects)
    (hns : g.metadata.namespace = some ns)
    (hsettled : (⟨.secret, objects.adminPortalEndpoint⟩ : WantedObject).Settled u)
    {r : SecretKeyRef} (hname : r.name = g.endpointSecretName) (hkey : r.key ≠ endpointKey) :
    u.secretText? ns r = none := by
  obtain ⟨ns', endpoint, replicas, owner, hns', rfl⟩ := desired_cases hobjects
  obtain rfl := Option.some.inj (hns.symm.trans hns')
  obtain ⟨key, hstoreKey, live, hlive, hagrees⟩ := hsettled
  obtain rfl : (⟨.secret, ns, g.endpointSecretName⟩ : StoreKey) = key := Except.ok.inj hstoreKey
  have hlive : u.object? .secret ns g.endpointSecretName = some live := hlive
  have hstrings : live.strings = .ofList [(endpointKey, endpoint)] := hagrees
  unfold MemoryStore.secretText?
  rw [hname, hlive, Option.bind_some, hstrings]
  simp [SortedMap.ofList, SortedMap.insertMany, hkey]

/-- A run that places its objects loses what a gateway looks for there. -/
theorem secretText?_reconcile_eq_none (hs : s.Sound) (hfailing : s.failing = [])
    (hstored : s.object? .gateway ns name = some g) (hlacks : ¬ g.spec.lacksDefaults)
    (hprepared : g.Prepared ns s objects) {r : SecretKeyRef}
    (hname : r.name = g.endpointSecretName) (hkey : r.key ≠ endpointKey) :
    (s.exec (reconcile ns name)).2.secretText? ns r = none := by
  have hget : .get ∉ s.failing := by simp [hfailing]
  have hread : (s.record .get ⟨.gateway, ns, name⟩).Sound := hs.record _ _
  obtain ⟨c, hreads, hobjects⟩ := hprepared
  have hresult : ((s.record .get ⟨.gateway, ns, name⟩).exec (prepare ns name g)).1 =
      .ok objects :=
    (exec_prepare hread hget).2 (Prepared.of_contents_eq ⟨c, hreads, hobjects⟩ rfl)
  have hns : g.metadata.namespace = some ns :=
    (Kind.storeKey_eq_ok.1 (hs.keeps hstored).storeKey).2.1
  obtain ⟨-, hcontents⟩ := exec_converge_of_ok hread hfailing hresult
  have hsound : (s.record .get ⟨.gateway, ns, name⟩).contents.Sound := hread.of_contents_eq rfl
  have hsettled : (⟨.secret, objects.adminPortalEndpoint⟩ : WantedObject).Settled
      (WantedObject.settleAll objects.wanted (s.record .get ⟨.gateway, ns, name⟩).contents) :=
    WantedObject.settled_settleAll hsound (exists_storeKey_wanted hobjects)
      (pairwise_storeKey_wanted objects) _ List.mem_cons_self
  rw [← hcontents] at hsettled
  rw [exec_reconcile_of_stored hs hstored hget hlacks]
  exact secretText?_of_settled hobjects hns hsettled hname hkey

/-- A gateway that looks for its token in the Secret that is made for it. -/
def borrowingGateway : Gateway :=
  { portalGateway with spec := { portalGateway.spec with
      adminPortal :=
        { url := ⟨"portal", "url"⟩
          accessToken := ⟨"apicast-edge-admin-portal-endpoint", "token"⟩ } } }

/-- A store in which the token is kept there. -/
def borrowedStore : MemoryStore :=
  ((({} : MemoryStore).insert .secret portalSecret).2.insert .secret
    { metadata := { name := some "apicast-edge-admin-portal-endpoint", «namespace» := some "apis" }
      stringData := some (.ofList [("token", "t")]) }).2.insert .gateway borrowingGateway |>.2

theorem peek_borrowedStore :
    borrowedStore.peek .gateway "apis" "edge" =
      .ok (some (MemoryStore.keptObject .gateway borrowingGateway 3)) := rfl

theorem isOk_desired_borrowingGateway :
    (desired (MemoryStore.keptObject .gateway borrowingGateway 3) ⟨"a://b", "t"⟩).isOk = true := rfl

theorem exists_prepared_borrowedStore :
    ∃ objects, Prepared (MemoryStore.keptObject .gateway borrowingGateway 3) "apis" borrowedStore
      objects := by
  cases hobjects : desired (MemoryStore.keptObject .gateway borrowingGateway 3) ⟨"a://b", "t"⟩ with
  | error e => simpa [hobjects, Except.isOk, Except.toBool] using isOk_desired_borrowingGateway
  | ok objects => exact ⟨objects, _, ⟨rfl, rfl, fun secret h => by cases h⟩, hobjects⟩

/-- The token is lost when the endpoint is written. -/
theorem borrowed_token_lost :
    ¬ ∀ s : MemoryStore, s.Reachable → ∀ ns name g, s.peek .gateway ns name = .ok (some g) →
      ∀ key ∈ g.secretKeys ns,
        (s.exec (reconcile ns name)).2.objects.get? key = s.objects.get? key := by
  intro h
  let token : SecretKeyRef := ⟨"apicast-edge-admin-portal-endpoint", "token"⟩
  have hreachable : borrowedStore.Reachable :=
    ((MemoryStore.Reachable.empty.insert _ _).insert _ _).insert _ _
  have hsound := hreachable.sound
  have hstored := Except.ok.inj ((hsound.peek_eq _ _ _).symm.trans peek_borrowedStore)
  obtain ⟨objects, hprepared⟩ := exists_prepared_borrowedStore
  have hlost := secretText?_reconcile_eq_none (r := token) hsound rfl hstored (by decide) hprepared
    (by decide) (by decide)
  have hkept := h borrowedStore hreachable "apis" "edge" _ peek_borrowedStore
    ⟨.secret, "apis", "apicast-edge-admin-portal-endpoint"⟩ (by decide)
  have hbefore : borrowedStore.secretText? "apis" token = some "t" := by decide
  rw [MemoryStore.secretText?, MemoryStore.object?_congr hkept] at hlost
  cases hlost.symm.trans hbefore

end ApiPlatform.Gateway
