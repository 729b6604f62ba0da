import ApiPlatform.Proofs.Gateway.Run
/-!
# Gateways converge

In a store that refuses nothing, a run writes the missing defaults of its gateway, once, or ends
with an error, or leaves the gateway converged: its objects are in place and everything that they
were built from is still there.  Runs for a converged gateway look, and do nothing else.
-/

namespace ApiPlatform.Gateway

variable {g : Gateway} {c : AdminPortalCredentials} {objects : DesiredObjects}
  {ns name : String} {s t : MemoryStore}

/-- The store after a number of further runs. -/
def after (ns name : String) : Nat → MemoryStore → MemoryStore
  | 0, s => s
  | n + 1, s => after ns name n (s.exec (reconcile ns name)).2

theorem lacksDefaults_iff (spec : GatewaySpec) :
    spec.lacksDefaults ↔
      spec.replicas = none ∨ spec.serviceAccount = none ∨ spec.image = none := by
  simp [GatewaySpec.lacksDefaults, or_assoc]

@[simp] theorem lacksDefaults_withDefaults (spec : GatewaySpec) :
    spec.withDefaults.lacksDefaults = false := rfl

/-! ## Defaults -/

/-- The gateway as a store keeps it once its defaults are written. -/
def keptDefaulted (g : Gateway) (version : Nat) : Gateway :=
  { g.defaulted with
    metadata := { g.metadata with resourceVersion := some (MemoryStore.versionText version) } }

theorem Hosted.keptObject_defaulted (h : g.Hosted ns name s) (version : Nat) :
    MemoryStore.keptObject .gateway g.defaulted version = g.keptDefaulted version := by
  have huid : g.metadata.uid.isSome := (h.sound.keeps h.stored).uid
  obtain ⟨uid, huid⟩ := Option.isSome_iff_exists.1 huid
  have hsame : some (g.metadata.uid.getD (MemoryStore.newUid version)) = g.metadata.uid := by
    rw [huid, Option.getD_some]
  change ({ g.defaulted with metadata := { g.metadata with
    resourceVersion := some (MemoryStore.versionText version)
    uid := some (g.metadata.uid.getD (MemoryStore.newUid version)) } } : Gateway) = _
  rw [hsame]
  rfl

/-- A store in which the defaults were written hosts the gateway with them. -/
theorem Hosted.defaulted (h : g.Hosted ns name s)
    (ht : t.contents = s.contents.write .gateway ⟨.gateway, ns, name⟩ g.defaulted) :
    (g.keptDefaulted (s.lastVersion + 1)).Hosted ns name t where
  sound :=
    (MemoryStore.Sound.write (h.sound.of_contents_eq rfl) h.storeKey_defaulted).of_contents_eq
      ht.symm
  stored := by
    have hkept := MemoryStore.object?_write_self (s := s.contents) h.storeKey_defaulted
    rw [← ht] at hkept
    rw [← h.keptObject_defaulted]
    exact hkept
  distinct := ⟨h.distinct.url, h.distinct.accessToken⟩

/-! ## One run in a store that refuses nothing -/

theorem needsRequeue_iff (h : g.Hosted ns name s) (hfailing : s.failing = []) :
    (s.exec (reconcile ns name)).1 = .ok .needsRequeue ↔ g.spec.lacksDefaults := by
  have hran := ran_reconcile h
  generalize (s.exec (reconcile ns name)).1 = r at hran ⊢
  generalize (s.exec (reconcile ns name)).2.contents = u at hran
  cases hran with
  | getFails hop => simp [hfailing] at hop
  | updateFails hop _ => simp [hfailing] at hop
  | defaulted hlacks => simpa using hlacks
  | unprepared e hlacks _ => simpa using hlacks
  | stopped _ _ _ _ hlacks _ _ => simpa using hlacks
  | done _ hlacks _ => simpa using hlacks

theorem contents_of_needsRequeue (h : g.Hosted ns name s)
    (hresult : (s.exec (reconcile ns name)).1 = .ok .needsRequeue) :
    (s.exec (reconcile ns name)).2.contents =
      s.contents.write .gateway ⟨.gateway, ns, name⟩ g.defaulted := by
  have hran := ran_reconcile h
  rw [hresult] at hran
  generalize (s.exec (reconcile ns name)).2.contents = u at hran
  cases hran
  rfl

theorem contents_of_done (h : g.Hosted ns name s)
    (hresult : (s.exec (reconcile ns name)).1 = .ok .done) :
    ∃ objects, ¬ g.spec.lacksDefaults ∧ g.Prepared ns s objects ∧
      (s.exec (reconcile ns name)).2.contents =
        WantedObject.settleAll objects.wanted s.contents := by
  have hran := ran_reconcile h
  rw [hresult] at hran
  generalize (s.exec (reconcile ns name)).2.contents = u at hran
  cases hran with
  | done objects hlacks hprepared => exact ⟨objects, hlacks, hprepared, rfl⟩

theorem exec_of_prepared (h : g.Hosted ns name s) (hfailing : s.failing = [])
    (hlacks : ¬ g.spec.lacksDefaults) (hprepared : g.Prepared ns s objects) :
    (s.exec (reconcile ns name)).1 = .ok .done ∧
      (s.exec (reconcile ns name)).2.contents =
        WantedObject.settleAll objects.wanted s.contents := by
  have hran := ran_reconcile h
  generalize (s.exec (reconcile ns name)).1 = r at hran ⊢
  generalize (s.exec (reconcile ns name)).2.contents = u at hran ⊢
  cases hran with
  | getFails hop => simp [hfailing] at hop
  | updateFails hop _ => simp [hfailing] at hop
  | defaulted hlacks' => exact absurd hlacks' hlacks
  | unprepared _ _ hmissing => exact absurd hprepared (hmissing objects)
  | stopped _ _ _ _ _ _ hop => simp [hfailing] at hop
  | done objects' _ hprepared' =>
      obtain rfl := hprepared.unique hprepared'
      exact ⟨rfl, rfl⟩

/-- A gateway with all its fields keeps them, whatever becomes of a run. -/
theorem Hosted.run (h : g.Hosted ns name s) (hlacks : ¬ g.spec.lacksDefaults) :
    g.Hosted ns name (s.exec (reconcile ns name)).2 := by
  have hran := ran_reconcile h
  generalize (s.exec (reconcile ns name)).1 = r at hran
  generalize hu : (s.exec (reconcile ns name)).2.contents = u at hran
  cases hran with
  | getFails _ => exact h.of_contents_eq hu.symm
  | updateFails _ hlacks' => exact absurd hlacks' hlacks
  | defaulted hlacks' => exact absurd hlacks' hlacks
  | unprepared _ _ _ => exact h.of_contents_eq hu.symm
  | stopped objects n _ _ _ hprepared _ =>
      obtain ⟨c, -, hobjects⟩ := hprepared
      exact h.placed hobjects n hu
  | done objects _ hprepared =>
      obtain ⟨c, -, hobjects⟩ := hprepared
      exact h.placed hobjects objects.wanted.length (by rw [hu, List.take_length])

theorem not_needsRequeue_after (h : g.Hosted ns name s) (hlacks : ¬ g.spec.lacksDefaults)
    (hfailing : s.failing = []) (n : Nat) :
    ((after ns name n s).exec (reconcile ns name)).1 ≠ .ok .needsRequeue := by
  induction n generalizing s with
  | zero => exact fun heq => hlacks ((needsRequeue_iff h hfailing).1 heq)
  | succ n ih =>
      exact ih (h.run hlacks) ((MemoryStore.failing_run _).trans hfailing)

/-! ## Converged gateways -/

/-- The gateway has all its fields, and its objects are in place. -/
structure Converged (g : Gateway) (ns name : String) (s : MemoryStore) : Prop where
  hosted : g.Hosted ns name s
  complete : ¬ g.spec.lacksDefaults
  settled : ∃ objects, g.Prepared ns s objects ∧ ∀ w ∈ objects.wanted, w.Settled s

theorem settled_of_contents_eq (h : g.Hosted ns name s) (hobjects : g.desired c = .ok objects)
    (ht : t.contents = WantedObject.settleAll objects.wanted s.contents) :
    ∀ w ∈ objects.wanted, w.Settled t := by
  have hcontents : g.Hosted ns name s.contents := h.of_contents_eq rfl
  have hsettled := WantedObject.settled_settleAll hcontents.sound
    (exists_storeKey_wanted hobjects) (pairwise_storeKey_wanted objects)
  rw [← ht] at hsettled
  exact hsettled

/-- What a successful run leaves behind. -/
theorem Converged.of_done (h : g.Hosted ns name s)
    (hresult : (s.exec (reconcile ns name)).1 = .ok .done) :
    g.Converged ns name (s.exec (reconcile ns name)).2 := by
  obtain ⟨objects, hlacks, hprepared, hcontents⟩ := contents_of_done h hresult
  obtain ⟨c, hreads, hobjects⟩ := hprepared
  refine ⟨h.run hlacks, hlacks, objects, ?_, settled_of_contents_eq h hobjects hcontents⟩
  refine Prepared.placed ⟨c, hreads, hobjects⟩ h objects.wanted.length ?_
  rw [hcontents, List.take_length]

/-- A run for a converged gateway does nothing but look. -/
theorem Converged.exec_reconcile (h : g.Converged ns name s) (hget : .get ∉ s.failing) :
    ∃ calls, (∀ c ∈ calls, c.operation = .get) ∧
      s.exec (reconcile ns name) = (.ok .done, { s with calls := s.calls ++ calls }) := by
  obtain ⟨hhosted, hcomplete, objects, hprepared, hsettled⟩ := h
  let u := s.record .get ⟨.gateway, ns, name⟩
  obtain ⟨calls, hcalls, hread⟩ := MemoryStore.run_of_isReadOnly (isReadOnly_prepare ns name g) u
  have hresult : (u.exec (prepare ns name g)).1 = .ok objects :=
    (exec_prepare (s := u) (hhosted.sound.record _ _) hget).2 (hprepared.of_contents_eq rfl)
  have hexec : u.exec (prepare ns name g) = (.ok objects, { u with calls := u.calls ++ calls }) :=
    Prod.ext hresult hread
  have hplacements : ∀ p ∈ objects.placements, p.wanted.Settled s :=
    fun p hp => hsettled p.wanted (List.mem_map_of_mem hp)
  obtain ⟨calls', hcalls', hplace⟩ := Placement.exec_runAll_of_settled
    (s := { u with calls := u.calls ++ calls }) (hhosted.sound.of_objects_eq rfl le_rfl) hget
    hplacements
  refine ⟨⟨.get, ⟨.gateway, ns, name⟩⟩ :: (calls ++ calls'), ?_, ?_⟩
  · simpa [or_imp, forall_and] using ⟨hcalls, hcalls'⟩
  · rw [exec_reconcile_of_complete hhosted hget hcomplete]
    unfold converge
    rw [MemoryStore.exec_bind, hexec]
    dsimp only
    rw [MemoryStore.exec_bind, DesiredObjects.placeAll_eq, hplace]
    simp [u, MemoryStore.record]

theorem Converged.of_contents_eq (h : g.Converged ns name s) (hst : s.contents = t.contents) :
    g.Converged ns name t := by
  obtain ⟨hhosted, hcomplete, objects, hprepared, hsettled⟩ := h
  refine ⟨hhosted.of_contents_eq hst, hcomplete, objects, hprepared.of_contents_eq hst, ?_⟩
  have hcontents : ∀ w ∈ objects.wanted, w.Settled s.contents := hsettled
  rw [hst] at hcontents
  exact hcontents

/-- However often it is run for, a converged gateway stays as it is. -/
theorem Converged.after (h : g.Converged ns name s) (hfailing : s.failing = []) (n : Nat) :
    ∃ calls, (∀ c ∈ calls, c.operation = .get) ∧
      after ns name n s = { s with calls := s.calls ++ calls } := by
  induction n generalizing s with
  | zero => exact ⟨[], by simp, by simp [Gateway.after]⟩
  | succ n ih =>
      obtain ⟨calls, hcalls, hexec⟩ := h.exec_reconcile (by simp [hfailing])
      obtain ⟨calls', hcalls', hafter⟩ :=
        ih (h.of_contents_eq (t := { s with calls := s.calls ++ calls }) rfl) hfailing
      refine ⟨calls ++ calls', by simpa [or_imp, forall_and] using ⟨hcalls, hcalls'⟩, ?_⟩
      rw [Gateway.after, hexec, hafter]
      simp

theorem Converged.exec_reconcile_after (h : g.Converged ns name s) (hfailing : s.failing = [])
    (n : Nat) :
    ∃ calls, (∀ c ∈ calls, c.operation = .get) ∧
      (Gateway.after ns name n s).exec (reconcile ns name) =
        (.ok .done, { s with calls := s.calls ++ calls }) := by
  obtain ⟨calls, hcalls, hafter⟩ := h.after hfailing n
  obtain ⟨calls', hcalls', hexec⟩ :=
    (h.of_contents_eq (t := { s with calls := s.calls ++ calls }) rfl).exec_reconcile
      (by simp [hfailing])
  refine ⟨calls ++ calls', by simpa [or_imp, forall_and] using ⟨hcalls, hcalls'⟩, ?_⟩
  rw [hafter, hexec]
  simp

/-! ## Convergence -/

theorem Hosted.of_peek (hs : s.Reachable) (hg : s.peek .gateway ns name = .ok (some g))
    (hdistinct : g.Distinct) : g.Hosted ns name s where
  sound := hs.sound
  stored := by simpa [hs.sound.peek_eq] using hg
  distinct := hdistinct

/-- In a store that refuses nothing, a run asks to be repeated exactly if a field with a default
is unset.  It then has written that gateway with its defaults and nothing else, and no later run
asks again.  A run that ends done has put every object in place, and all later runs end done,
issue nothing but reads and leave objects and version number as they are. -/
theorem reconcile_converges (hs : s.Reachable) (hfailing : s.failing = [])
    (hg : s.peek .gateway ns name = .ok (some g))
    (hurl : g.spec.adminPortal.url.name ≠ g.endpointSecretName)
    (htoken : g.spec.adminPortal.accessToken.name ≠ g.endpointSecretName) :
    let r := (s.exec (reconcile ns name)).1
    let t := (s.exec (reconcile ns name)).2
    (r = .ok .needsRequeue ↔
        g.spec.replicas = none ∨ g.spec.serviceAccount = none ∨ g.spec.image = none) ∧
      (r = .ok .needsRequeue →
        t.peek .gateway ns name = .ok (some
          { g with
            metadata :=
              { g.metadata with
                resourceVersion := some (MemoryStore.versionText (s.lastVersion + 1)) }
            spec := g.spec.withDefaults }) ∧
        (∀ key ≠ ⟨.gateway, ns, name⟩, t.objects.get? key = s.objects.get? key) ∧
        ∀ n, ((after ns name n t).exec (reconcile ns name)).1 ≠ .ok .needsRequeue) ∧
      (r = .ok .done →
        (∃ c objects, g.Reads ns s c ∧ g.desired c = .ok objects ∧
          (objects.ingress.isSome ↔ g.spec.exposedHostname.isSome) ∧
          ∀ w ∈ objects.wanted, w.Settled t) ∧
        ∀ n, ∃ calls, (∀ c ∈ calls, c.operation = .get) ∧
          (after ns name n t).exec (reconcile ns name) =
            (.ok .done, { t with calls := t.calls ++ calls })) := by
  intro r t
  have h := Hosted.of_peek hs hg ⟨hurl, htoken⟩
  have ht : t.failing = [] := (MemoryStore.failing_run _).trans hfailing
  refine ⟨(needsRequeue_iff h hfailing).trans (lacksDefaults_iff _), fun hr => ?_, fun hr => ?_⟩
  · have hcontents := contents_of_needsRequeue h hr
    have hhosted := h.defaulted hcontents
    have hcomplete : ¬ (g.keptDefaulted (s.lastVersion + 1)).spec.lacksDefaults := by
      simp [keptDefaulted, defaulted]
    refine ⟨?_, fun key hkey => ?_, not_needsRequeue_after hhosted hcomplete ht⟩
    · rw [hhosted.sound.peek_eq, hhosted.stored]
      rfl
    · have hobjects := congrArg (fun u => u.objects.get? key) hcontents
      rw [MemoryStore.get?_write, if_neg hkey] at hobjects
      exact hobjects
  · obtain ⟨objects, -, ⟨c, hreads, hobjects⟩, hcontents⟩ := contents_of_done h hr
    refine ⟨⟨c, objects, hreads, hobjects, by rw [desired_ingress hobjects], ?_⟩, ?_⟩
    · exact settled_of_contents_eq h hobjects hcontents
    · exact (Converged.of_done h hr).exec_reconcile_after ht

/-- A Secret with the credentials of a portal. -/
def portalSecret : Secret :=
  { metadata := { name := some "portal", «namespace» := some "apis" }
    stringData := some (.ofList [("url", "a://b"), ("token", "t")]) }

/-- A gateway to that portal. -/
def portalGateway : Gateway :=
  { metadata := { name := some "edge", «namespace» := some "apis", uid := some "u" }
    spec :=
      { replicas := some 1
        image := some "i"
        serviceAccount := some "a"
        adminPortal := { url := ⟨"portal", "url"⟩, accessToken := ⟨"portal", "token"⟩ } } }

/-- A store that holds no more than the two of them. -/
def portalStore : MemoryStore :=
  ((({} : MemoryStore).insert .secret portalSecret).2.insert .gateway portalGateway).2

theorem reachable_portalStore : portalStore.Reachable :=
  (MemoryStore.Reachable.empty.insert _ _).insert _ _

theorem peek_portalStore :
    portalStore.peek .gateway "apis" "edge" =
      .ok (some (MemoryStore.keptObject .gateway portalGateway 2)) := rfl

theorem isOk_desired_portalGateway :
    (desired (MemoryStore.keptObject .gateway portalGateway 2) ⟨"a://b", "t"⟩).isOk = true := rfl

theorem reads_portalStore :
    Reads (MemoryStore.keptObject .gateway portalGateway 2) "apis" portalStore ⟨"a://b", "t"⟩ where
  url := rfl
  accessToken := rfl
  environment := by
    intro secret h
    cases h

theorem reconcile_portalStore :
    (portalStore.exec (reconcile "apis" "edge")).1 = .ok .done := by
  have hosted := Hosted.of_peek reachable_portalStore peek_portalStore
    ⟨by decide, by decide⟩
  cases hobjects : desired (MemoryStore.keptObject .gateway portalGateway 2) ⟨"a://b", "t"⟩ with
  | error e => simpa [hobjects, Except.isOk, Except.toBool] using isOk_desired_portalGateway
  | ok objects =>
      exact (exec_of_prepared hosted rfl (by decide) ⟨_, reads_portalStore, hobjects⟩).1

theorem portalStore_converges :
    (portalStore.exec (reconcile "apis" "edge")).1 = .ok .done ∧
      ∃ calls, (∀ c ∈ calls, c.operation = .get) ∧
        (portalStore.exec (reconcile "apis" "edge")).2.exec (reconcile "apis" "edge") =
          (.ok .done,
            { (portalStore.exec (reconcile "apis" "edge")).2 with
              calls := (portalStore.exec (reconcile "apis" "edge")).2.calls ++ calls }) :=
  ⟨reconcile_portalStore,
    ((reconcile_converges reachable_portalStore rfl peek_portalStore (by decide)
      (by decide)).2.2 reconcile_portalStore).2 0⟩

end ApiPlatform.Gateway
