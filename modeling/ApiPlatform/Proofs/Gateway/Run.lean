import ApiPlatform.Proofs.Gateway.Reading
/-!
# One run for a gateway

`Gateway.Ran` lists everything that a run can do for a gateway that is in the store, with the
contents that it leaves.  A run that was stopped after some of its objects can be taken up again:
the gateway is as it was, and what was read is still there (`Gateway.Hosted.placed`,
`Gateway.Prepared.placed`).
-/

namespace ApiPlatform.Gateway

variable {g : Gateway} {c : AdminPortalCredentials} {objects : DesiredObjects}
  {ns name : String} {s t : MemoryStore}

/-- The gateway with its defaults set. -/
def defaulted (g : Gateway) : Gateway := { g with spec := g.spec.withDefaults }

/-- The gateway is in the store, and it looks for its credentials elsewhere than in the Secret that
is made for it. -/
structure Hosted (g : Gateway) (ns name : String) (s : MemoryStore) : Prop where
  sound : s.Sound
  stored : s.object? .gateway ns name = some g
  distinct : g.Distinct

theorem Hosted.storeKey (h : g.Hosted ns name s) :
    Kind.gateway.storeKey g = .ok ⟨.gateway, ns, name⟩ := (h.sound.keeps h.stored).storeKey

theorem Hosted.storeKey_defaulted (h : g.Hosted ns name s) :
    Kind.gateway.storeKey g.defaulted = .ok ⟨.gateway, ns, name⟩ := h.storeKey

theorem Hosted.namespace (h : g.Hosted ns name s) : g.metadata.namespace = some ns :=
  (Kind.storeKey_eq_ok.1 h.storeKey).2.1

theorem Hosted.of_contents_eq (h : g.Hosted ns name s) (hst : s.contents = t.contents) :
    g.Hosted ns name t where
  sound := h.sound.of_contents_eq hst
  stored := by rw [← MemoryStore.object?_of_contents_eq hst, h.stored]
  distinct := h.distinct

theorem Hosted.refusing (h : g.Hosted ns name s) (ops : List Operation) :
    g.Hosted ns name (s.refusing ops) := h.of_contents_eq rfl

/-- What a run may do: its result, and the contents of the store afterwards. -/
inductive Ran (g : Gateway) (ns name : String) (s : MemoryStore) :
    Except GatewayError ReconcileAction → MemoryStore → Prop
  | getFails : .get ∈ s.failing →
      Ran g ns name s (.error (.getGateway ns name (.injected .get))) s.contents
  | updateFails : .update ∈ s.failing → g.spec.lacksDefaults →
      Ran g ns name s (.error (.persistDefaults name (.injected .update))) s.contents
  | defaulted : g.spec.lacksDefaults →
      Ran g ns name s (.ok .needsRequeue)
        (s.contents.write .gateway ⟨.gateway, ns, name⟩ g.defaulted)
  | unprepared (e : GatewayError) : ¬ g.spec.lacksDefaults →
      (∀ objects, ¬ g.Prepared ns s objects) → Ran g ns name s (.error e) s.contents
  | stopped (objects : DesiredObjects) (n : Nat) (part : GatewayPart) (op : Operation) :
      ¬ g.spec.lacksDefaults → g.Prepared ns s objects → op ∈ s.failing →
      Ran g ns name s (.error (.reconcileObject part (.injected op)))
        (WantedObject.settleAll (objects.wanted.take n) s.contents)
  | done (objects : DesiredObjects) : ¬ g.spec.lacksDefaults → g.Prepared ns s objects →
      Ran g ns name s (.ok .done) (WantedObject.settleAll objects.wanted s.contents)

/-- Calls have no influence on what a run may do. -/
theorem Ran.of_contents_eq {r : Except GatewayError ReconcileAction} {u : MemoryStore}
    (h : g.Ran ns name s r u) (hst : s.contents = t.contents) (hfailing : s.failing = t.failing) :
    g.Ran ns name t r u := by
  cases h with
  | getFails hop =>
      rw [hst]
      exact .getFails (hfailing ▸ hop)
  | updateFails hop hlacks =>
      rw [hst]
      exact .updateFails (hfailing ▸ hop) hlacks
  | defaulted hlacks =>
      rw [hst]
      exact .defaulted hlacks
  | unprepared e hlacks hmissing =>
      rw [hst]
      exact .unprepared e hlacks fun objects h => hmissing objects (h.of_contents_eq hst.symm)
  | stopped objects n part op hlacks hprepared hop =>
      rw [hst]
      exact .stopped objects n part op hlacks (hprepared.of_contents_eq hst) (hfailing ▸ hop)
  | done objects hlacks hprepared =>
      rw [hst]
      exact .done objects hlacks (hprepared.of_contents_eq hst)

/-- The part of a run that reads and places. -/
def converge («namespace» name : String) (g : Gateway) :
    StoreM GatewayError ReconcileAction := do
  let objects ← prepare «namespace» name g
  placeAll objects
  pure .done

theorem reconcile_eq (ns name : String) :
    reconcile ns name = (do
      match ← (StoreM.get .gateway ns name).mapError (.getGateway ns name) with
      | none => pure .done
      | some (g : Gateway) =>
        if g.spec.lacksDefaults then do
          let _ ← (StoreM.update .gateway g.defaulted).mapError (GatewayError.persistDefaults name)
          pure .needsRequeue
        else converge ns name g) := by
  simp only [converge, prepare, bind_assoc]
  rfl

theorem ran_converge (hs : s.Sound) (hget : .get ∉ s.failing) (hlacks : ¬ g.spec.lacksDefaults) :
    g.Ran ns name s (s.exec (converge ns name g)).1 (s.exec (converge ns name g)).2.contents := by
  unfold converge
  rw [MemoryStore.exec_bind]
  obtain ⟨e, t, hexec, ht, hmissing⟩ | ⟨objects, t, hexec, ht, hfailing, hprepared⟩ :=
    exec_prepare_cases hs hget g ns name
  · rw [hexec]
    dsimp only
    rw [ht]
    exact .unprepared e hlacks hmissing
  · obtain ⟨c, hreads, hobjects⟩ := hprepared
    have hplaced := Placement.exec_runAll_cases (hs.of_contents_eq ht.symm) fun p hp =>
      exists_storeKey_wanted hobjects p.wanted (List.mem_map_of_mem hp)
    rw [ht, hfailing] at hplaced
    rw [hexec]
    dsimp only
    rw [MemoryStore.exec_bind, DesiredObjects.placeAll_eq]
    rcases hplacing : t.exec (Placement.runAll objects.placements) with ⟨e | ⟨⟩, u⟩ <;>
      simp only [hplacing] at hplaced <;> dsimp only
    · obtain ⟨hok, -⟩ | ⟨n, part, op, hop, herror, hcontents⟩ := hplaced
      · cases hok
      · cases herror
        rw [hcontents]
        exact .stopped objects n part op hlacks ⟨c, hreads, hobjects⟩ hop
    · obtain ⟨-, hcontents⟩ | ⟨n, part, op, -, herror, -⟩ := hplaced
      · rw [MemoryStore.exec_pure]
        dsimp only
        rw [hcontents]
        exact .done objects hlacks ⟨c, hreads, hobjects⟩
      · cases herror

section Stored

variable (hs : s.Sound) (hstored : s.object? .gateway ns name = some g)
include hs hstored

theorem update_defaulted_of_stored :
    s.update .gateway g.defaulted =
      if .update ∈ s.failing then
        (.error (.injected .update), s.record .update ⟨.gateway, ns, name⟩)
      else
        (.ok (MemoryStore.keptObject .gateway g.defaulted (s.lastVersion + 1)),
          (s.record .update ⟨.gateway, ns, name⟩).write .gateway ⟨.gateway, ns, name⟩
            g.defaulted) := by
  have hkey : Kind.gateway.storeKey g.defaulted = .ok ⟨.gateway, ns, name⟩ :=
    (hs.keeps hstored).storeKey
  exact hs.update_current hkey hstored rfl rfl

/-- A run for a gateway that has all its fields goes on to read and place. -/
theorem exec_reconcile_of_stored (hget : .get ∉ s.failing) (hlacks : ¬ g.spec.lacksDefaults) :
    s.exec (reconcile ns name) =
      (s.record .get ⟨.gateway, ns, name⟩).exec (converge ns name g) := by
  rw [reconcile_eq, MemoryStore.exec_bind, MemoryStore.exec_mapError, MemoryStore.exec_get, hs.get_eq,
    if_neg hget, hstored]
  dsimp only [Except.mapError]
  rw [if_neg hlacks]

end Stored

theorem update_defaulted (h : g.Hosted ns name s) :
    s.update .gateway g.defaulted =
      if .update ∈ s.failing then
        (.error (.injected .update), s.record .update ⟨.gateway, ns, name⟩)
      else
        (.ok (MemoryStore.keptObject .gateway g.defaulted (s.lastVersion + 1)),
          (s.record .update ⟨.gateway, ns, name⟩).write .gateway ⟨.gateway, ns, name⟩
            g.defaulted) :=
  update_defaulted_of_stored h.sound h.stored

theorem exec_reconcile_of_complete (h : g.Hosted ns name s) (hget : .get ∉ s.failing)
    (hlacks : ¬ g.spec.lacksDefaults) :
    s.exec (reconcile ns name) =
      (s.record .get ⟨.gateway, ns, name⟩).exec (converge ns name g) :=
  exec_reconcile_of_stored h.sound h.stored hget hlacks

/-- Everything that a run can do. -/
theorem ran_reconcile (h : g.Hosted ns name s) :
    g.Ran ns name s (s.exec (reconcile ns name)).1 (s.exec (reconcile ns name)).2.contents := by
  have hread : (s.record .get ⟨.gateway, ns, name⟩).contents = s.contents := rfl
  have hhosted := h.of_contents_eq hread.symm
  by_cases hget : .get ∈ s.failing
  · unfold reconcile
    rw [MemoryStore.exec_bind, MemoryStore.exec_mapError, MemoryStore.exec_get, h.sound.get_eq,
      if_pos hget]
    exact .getFails hget
  by_cases hlacks : g.spec.lacksDefaults
  · have hupdate := update_defaulted hhosted
    unfold defaulted at hupdate
    unfold reconcile
    rw [MemoryStore.exec_bind, MemoryStore.exec_mapError, MemoryStore.exec_get, h.sound.get_eq,
      if_neg hget, h.stored]
    dsimp only [Except.mapError]
    rw [if_pos hlacks, MemoryStore.exec_bind, MemoryStore.exec_mapError, MemoryStore.exec_update,
      hupdate]
    by_cases hop : .update ∈ s.failing
    · rw [if_pos (by simpa using hop)]
      exact .updateFails hop hlacks
    · rw [if_neg (by simpa using hop)]
      exact .defaulted hlacks
  · rw [exec_reconcile_of_complete h hget hlacks]
    exact (ran_converge hhosted.sound hget hlacks).of_contents_eq hread rfl

/-! ## Taking up again -/

/-- Placing objects touches no Secret but the one with the endpoint, and no gateway. -/
theorem get?_placed (hobjects : g.desired c = .ok objects) (hns : g.metadata.namespace = some ns)
    (n : Nat) {key : StoreKey} (hkind : key.kind = .secret ∨ key.kind = .gateway)
    (hkey : key ≠ ⟨.secret, ns, g.endpointSecretName⟩) :
    (WantedObject.settleAll (objects.wanted.take n) s).objects.get? key = s.objects.get? key := by
  refine WantedObject.get?_settleAll fun w hw => ?_
  obtain hw | ⟨k, hk, hw⟩ := storeKey_wanted hobjects hns w (List.mem_of_mem_take hw)
  · exact ⟨_, hw, hkey⟩
  · refine ⟨_, hw, fun heq => ?_⟩
    subst heq
    obtain rfl | rfl := hkind <;> simp at hk

theorem Hosted.placed (h : g.Hosted ns name s) (hobjects : g.desired c = .ok objects) (n : Nat)
    (ht : t.contents = WantedObject.settleAll (objects.wanted.take n) s.contents) :
    g.Hosted ns name t := by
  have hst := (WantedObject.contents_settleAll (objects.wanted.take n)).trans ht.symm
  refine ⟨(WantedObject.settleAll_sound _ h.sound).of_contents_eq hst, ?_, h.distinct⟩
  rw [← MemoryStore.object?_of_contents_eq hst, ← h.stored, MemoryStore.object?,
    get?_placed hobjects h.namespace n (.inr rfl) (by simp), MemoryStore.object?]

theorem Prepared.placed (h : g.Prepared ns s objects) (hhosted : g.Hosted ns name s) (n : Nat)
    (ht : t.contents = WantedObject.settleAll (objects.wanted.take n) s.contents) :
    g.Prepared ns t objects := by
  obtain ⟨c, hreads, hobjects⟩ := h
  have hst := (WantedObject.contents_settleAll (objects.wanted.take n)).trans ht.symm
  have hobject (secret : String) : t.object? .secret ns secret =
      (WantedObject.settleAll (objects.wanted.take n) s).object? .secret ns secret :=
    (MemoryStore.object?_of_contents_eq hst .secret ns secret).symm
  refine ⟨c, hreads.of_secrets hhosted.distinct (fun secret hne => ?_) fun hthere => ?_, hobjects⟩
  · rw [hobject, MemoryStore.object?, MemoryStore.object?,
      get?_placed hobjects hhosted.namespace n (.inl rfl) (by simpa using hne)]
  · have hsound := WantedObject.settleAll_sound (objects.wanted.take n) hhosted.sound
    have hkept : (s.objects.get? ⟨.secret, ns, g.endpointSecretName⟩).isSome → _ :=
      WantedObject.isSome_get?_settleAll (objects.wanted.take n)
    rw [hsound.get?_eq, hhosted.sound.get?_eq, Option.isSome_map, Option.isSome_map] at hkept
    rw [hobject]
    exact hkept hthere

end ApiPlatform.Gateway
