import ApiPlatform.Proofs.Gateway.Frame
import ApiPlatform.Proofs.Reconcile.Likeness
/-!
# Gateways that do not get into each other's way

A run looks at its gateway, at the objects of the gateway and at the Secrets that the gateway refers
to, and writes no others than the first two.  Different gateways have different objects.  So if
neither refers to the Secret that is made for the other one, it does not matter which is run for
first.
-/

namespace ApiPlatform

open MemoryStore (AgreeOn AlikeAt)

/-- What follows a read answers alike, as far as it is looked at, in stores in which the read does,
if no more of the answer to the read counts than is looked at. -/
theorem MemoryStore.map_fst_exec_bind_congr {s t : MemoryStore} {ε α β γ δ : Type} {p : StoreM ε α}
    {f f' : α → StoreM ε β} (look : α → γ) (look' : β → δ) (hp : StoreM.IsReadOnly p)
    (h : (s.exec p).1.map look = (t.exec p).1.map look)
    (hf : ∀ a a', look a = look a' →
      (s.exec (f a)).1.map look' = (t.exec (f' a')).1.map look') :
    (s.exec (p >>= f)).1.map look' = (t.exec (p >>= f')).1.map look' := by
  have hs : (s.exec p).2.clearCalls = s.clearCalls := clearCalls_run_of_isReadOnly hp s
  have ht : (t.exec p).2.clearCalls = t.clearCalls := clearCalls_run_of_isReadOnly hp t
  have hafter (u u' : MemoryStore) (hu : u'.clearCalls = u.clearCalls) (q : StoreM ε β) :
      (u'.exec q).1 = (u.exec q).1 := (run_congr hu q.run).1
  rw [exec_bind, exec_bind]
  rcases hexec : s.exec p with ⟨r, s'⟩
  rcases hexec' : t.exec p with ⟨r', t'⟩
  rw [hexec] at h hs
  rw [hexec'] at h ht
  obtain ⟨e, rfl, rfl⟩ | ⟨a, a', rfl, rfl, ha⟩ := Failure.cases_of_map_eq h
  · rfl
  · dsimp only
    rw [hafter s s' hs, hafter t t' ht]
    exact hf a a' ha

/-- What follows a read answers alike in stores in which the read and all that may follow do. -/
theorem MemoryStore.fst_exec_bind_congr {s t : MemoryStore} {ε α β : Type} {p : StoreM ε α}
    {f : α → StoreM ε β} (hp : StoreM.IsReadOnly p) (h : (s.exec p).1 = (t.exec p).1)
    (hf : ∀ a, (s.exec (f a)).1 = (t.exec (f a)).1) :
    (s.exec (p >>= f)).1 = (t.exec (p >>= f)).1 := by
  have hread : (s.exec p).1.map id = (t.exec p).1.map id := by rw [h]
  have hafter : (s.exec (p >>= f)).1.map id = (t.exec (p >>= f)).1.map id :=
    map_fst_exec_bind_congr id id hp hread fun a a' ha => by rw [show a = a' from ha, hf]
  simpa only [Except.map_id, id] using hafter

namespace Gateway

variable {g g' : Gateway} {objects : DesiredObjects} {ns name ns' name' : String}
  {s t : MemoryStore} {key : StoreKey}

/-- The keys of a gateway and of its objects. -/
def ownKeys (g : Gateway) (ns name : String) : List StoreKey :=
  ⟨.gateway, ns, name⟩ :: g.objectKeys ns

/-- The keys of the Secrets that a gateway refers to. -/
def secretKeys (g : Gateway) (ns : String) : List StoreKey :=
  ⟨.secret, ns, g.spec.adminPortal.url.name⟩ ::
    ⟨.secret, ns, g.spec.adminPortal.accessToken.name⟩ ::
      g.spec.environmentSecret.toList.map fun secret => ⟨.secret, ns, secret⟩

/-! ## Reading -/

section Reading

variable (hs : s.Sound) (ht : t.Sound) (hgets : .get ∉ s.failing) (hgett : .get ∉ t.failing)
include hs ht hgets hgett

/-- As much as two stores hold the same of a Secret, so much is the same of what is read. -/
theorem map_fst_exec_requiredSecret_congr {α : Type} (look : Secret → α)
    (h : (s.object? .secret ns name).map look = (t.object? .secret ns name).map look)
    (use : SecretUse) :
    (s.exec (requiredSecret ns name use)).1.map look =
      (t.exec (requiredSecret ns name use)).1.map look := by
  unfold requiredSecret
  split_ifs
  · rfl
  · refine MemoryStore.map_fst_exec_bind_congr (Option.map look) look
      ((StoreM.isReadOnly_get _ _ _).mapError _) ?_ ?_
    · rw [MemoryStore.exec_mapError, MemoryStore.exec_mapError, MemoryStore.exec_get,
        MemoryStore.exec_get, hs.get_eq, ht.get_eq, if_neg hgets, if_neg hgett]
      exact congrArg Except.ok h
    · rintro (_ | found) (_ | found') hfound
      · rfl
      · cases hfound
      · cases hfound
      · exact congrArg Except.ok (Option.some.inj hfound)

theorem fst_exec_requiredSecret_congr
    (h : s.objects.get? ⟨.secret, ns, name⟩ = t.objects.get? ⟨.secret, ns, name⟩)
    (use : SecretUse) :
    (s.exec (requiredSecret ns name use)).1 = (t.exec (requiredSecret ns name use)).1 := by
  have hobject : s.object? .secret ns name = t.object? .secret ns name :=
    MemoryStore.object?_congr h
  have hread := map_fst_exec_requiredSecret_congr hs ht hgets hgett id (congrArg _ hobject) use
  simpa only [Except.map_id, id] using hread

theorem fst_exec_secretValue_congr (r : SecretKeyRef) (use : SecretUse)
    (h : s.objects.get? ⟨.secret, ns, r.name⟩ = t.objects.get? ⟨.secret, ns, r.name⟩) :
    (s.exec (secretValue ns r use)).1 = (t.exec (secretValue ns r use)).1 := by
  refine MemoryStore.fst_exec_bind_congr (isReadOnly_requiredSecret _ _ _)
    (fst_exec_requiredSecret_congr hs ht hgets hgett h use) fun secret => ?_
  cases secret.strings.get? r.key <;> rfl

/-- What is read depends on the Secrets that the gateway refers to. -/
theorem fst_exec_prepare_congr (h : AgreeOn (g.secretKeys ns) s t) :
    (s.exec (prepare ns name g)).1 = (t.exec (prepare ns name g)).1 := by
  obtain ⟨hurl, h⟩ := List.forall_mem_cons.1 h
  obtain ⟨htoken, henvironment⟩ := List.forall_mem_cons.1 h
  have hcredentials : (s.exec (credentials ns g)).1 = (t.exec (credentials ns g)).1 :=
    MemoryStore.fst_exec_bind_congr (isReadOnly_secretValue _ _ _)
      (fst_exec_secretValue_congr hs ht hgets hgett _ _ hurl) fun url =>
        MemoryStore.fst_exec_bind_congr (isReadOnly_secretValue _ _ _)
          (fst_exec_secretValue_congr hs ht hgets hgett _ _ htoken) fun token => rfl
  have hcheck : (s.exec (checkEnvironment ns g)).1 = (t.exec (checkEnvironment ns g)).1 := by
    unfold checkEnvironment
    cases hsecret : g.spec.environmentSecret with
    | none => rfl
    | some secret =>
        have hkey := henvironment ⟨.secret, ns, secret⟩ (by simp [hsecret])
        exact MemoryStore.fst_exec_bind_congr (isReadOnly_requiredSecret _ _ _)
          (fst_exec_requiredSecret_congr hs ht hgets hgett hkey _) fun _ => rfl
  exact MemoryStore.fst_exec_bind_congr (isReadOnly_credentials _ _) hcredentials fun c =>
    MemoryStore.fst_exec_bind_congr (isReadOnly_checkEnvironment _ _) hcheck fun _ => rfl

end Reading

/-! ## What a run does in a store that refuses nothing -/

theorem exec_reconcile_of_lacksDefaults (hs : s.Sound) (hfailing : s.failing = [])
    (hstored : s.object? .gateway ns name = some g) (hlacks : g.spec.lacksDefaults) :
    (s.exec (reconcile ns name)).1 = .ok .needsRequeue ∧
      (s.exec (reconcile ns name)).2.contents =
        s.contents.write .gateway ⟨.gateway, ns, name⟩ g.defaulted := by
  have hread : (s.record .get ⟨.gateway, ns, name⟩).Sound := hs.record _ _
  have hupdate := update_defaulted_of_stored hread hstored
  have hget : .get ∉ s.failing := by simp [hfailing]
  rw [if_neg (by simp [hfailing])] at hupdate
  rw [reconcile_eq, MemoryStore.exec_bind, MemoryStore.exec_mapError, MemoryStore.exec_get,
    hs.get_eq, if_neg hget, hstored]
  dsimp only [Except.mapError]
  rw [if_pos hlacks, MemoryStore.exec_bind, MemoryStore.exec_mapError, MemoryStore.exec_update,
    hupdate]
  exact ⟨rfl, rfl⟩

theorem exec_converge_of_error (hs : s.Sound) (hfailing : s.failing = []) {e : GatewayError}
    (h : (s.exec (prepare ns name g)).1 = .error e) :
    (s.exec (converge ns name g)).1 = .error e ∧
      (s.exec (converge ns name g)).2.contents = s.contents := by
  have hget : .get ∉ s.failing := by simp [hfailing]
  unfold converge
  rw [MemoryStore.exec_bind]
  obtain ⟨e', t, hexec, ht, -⟩ | ⟨objects, t, hexec, -⟩ := exec_prepare_cases hs hget g ns name
  · rw [hexec] at h ⊢
    cases h
    exact ⟨rfl, ht⟩
  · rw [hexec] at h
    cases h

theorem exec_converge_of_ok (hs : s.Sound) (hfailing : s.failing = [])
    (h : (s.exec (prepare ns name g)).1 = .ok objects) :
    (s.exec (converge ns name g)).1 = .ok .done ∧
      (s.exec (converge ns name g)).2.contents =
        WantedObject.settleAll objects.wanted s.contents := by
  have hget : .get ∉ s.failing := by simp [hfailing]
  unfold converge
  rw [MemoryStore.exec_bind]
  obtain ⟨e', t, hexec, -⟩ | ⟨objects', t, hexec, ht, htfailing, c, -, hobjects⟩ :=
    exec_prepare_cases hs hget g ns name
  · rw [hexec] at h
    cases h
  · rw [hexec] at h ⊢
    cases h
    have hplaced := Placement.exec_runAll_split (hs.of_contents_eq ht.symm) fun p hp =>
      exists_storeKey_wanted hobjects p.wanted (List.mem_map_of_mem hp)
    dsimp only
    rw [MemoryStore.exec_bind, DesiredObjects.placeAll_eq]
    obtain ⟨hok, hcontents⟩ | ⟨before, p, after, -, op, hop, -⟩ := hplaced
    · rcases hplacing : t.exec (Placement.runAll objects.placements) with ⟨r, u⟩
      rw [hplacing] at hok hcontents
      obtain rfl : r = .ok () := hok
      rw [ht] at hcontents
      exact ⟨rfl, hcontents⟩
    · rw [htfailing, hfailing] at hop
      cases hop

/-- The objects that are made come without an identifier. -/
theorem uid_wanted {c : AdminPortalCredentials} (h : g.desired c = .ok objects) :
    ∀ w ∈ objects.wanted, (w.kind.kind.metadata w.object).uid = none := by
  obtain ⟨ns, endpoint, replicas, owner, -, rfl⟩ := desired_cases h
  rw [DesiredObjects.forall_mem_wanted]
  refine ⟨rfl, rfl, rfl, fun ingress hingress => ?_⟩
  obtain ⟨host, -, rfl⟩ := Option.map_eq_some_iff.1 hingress
  rfl

theorem storeKey_wanted_mem {c : AdminPortalCredentials} (h : g.desired c = .ok objects)
    (hns : g.metadata.namespace = some ns) {w : WantedObject} (hw : w ∈ objects.wanted)
    (hkey : w.storeKey = .ok key) : key ∈ g.objectKeys ns := by
  obtain hsecret | ⟨k, hk, hother⟩ := storeKey_wanted h hns w hw
  · obtain rfl := Except.ok.inj (hkey.symm.trans hsecret)
    simp [objectKeys]
  · obtain rfl := Except.ok.inj (hkey.symm.trans hother)
    simp only [List.mem_cons, List.not_mem_nil, or_false] at hk
    rcases hk with rfl | rfl | rfl <;> simp [objectKeys]

/-! ## Stores that agree on what a run looks at -/

/-- Writing a gateway with its defaults leaves alike what was the same. -/
theorem alikeAt_write_defaulted (hs : s.Sound) (hstored : s.object? .gateway ns name = some g)
    (h : s.objects.get? key = t.objects.get? key) :
    AlikeAt key s (s.contents.write .gateway ⟨.gateway, ns, name⟩ g.defaulted)
      (t.contents.write .gateway ⟨.gateway, ns, name⟩ g.defaulted) := by
  by_cases hkey : key = ⟨.gateway, ns, name⟩
  · subst hkey
    have huid : (Kind.gateway.metadata g.defaulted).uid.isSome := (hs.keeps hstored).uid
    have hdefaulted : Kind.gateway.storeKey g.defaulted = .ok ⟨.gateway, ns, name⟩ :=
      (hs.keeps hstored).storeKey
    unfold AlikeAt
    rw [MemoryStore.object?_write_self hdefaulted, MemoryStore.object?_write_self hdefaulted]
    change MemoryStore.Alike (s.object? .gateway ns name) _ _
    rw [hstored]
    exact MemoryStore.alike_keptObject huid _ _
  · refine (AlikeAt.refl key s).congr rfl ?_ ?_
    · rw [MemoryStore.get?_write, if_neg hkey]
      rfl
    · rw [MemoryStore.get?_write, if_neg hkey]
      exact h.symm

/-- Settling the objects of a gateway leaves alike what was the same. -/
theorem alikeAt_settleAll_wanted (hs : s.Sound) {c : AdminPortalCredentials}
    (hdesired : g.desired c = .ok objects) (hns : g.metadata.namespace = some ns)
    (hown : AgreeOn (g.ownKeys ns name) s t) (hkey : key ∈ g.ownKeys ns name) :
    AlikeAt key s (WantedObject.settleAll objects.wanted s.contents)
      (WantedObject.settleAll objects.wanted t.contents) := by
  have hagree : ∀ w ∈ objects.wanted, ∀ key, w.storeKey = .ok key →
      s.contents.objects.get? key = t.contents.objects.get? key := by
    intro w hw key hkey
    exact hown key (List.mem_cons_of_mem _ (storeKey_wanted_mem hdesired hns hw hkey))
  have hsound : s.contents.Sound := hs.of_contents_eq rfl
  have halike := WantedObject.alikeAt_settleAll_of_get?_eq hsound (exists_storeKey_wanted hdesired)
    (pairwise_storeKey_wanted objects) (uid_wanted hdesired) hagree (hown key hkey)
  exact halike.congr rfl rfl rfl

section Agreement

variable (hs : s.Sound) (ht : t.Sound) (hfs : s.failing = []) (hft : t.failing = [])
include hs ht hfs hft

theorem alikeAt_converge (hns : g.metadata.namespace = some ns)
    (hown : AgreeOn (g.ownKeys ns name) s t) (hsecrets : AgreeOn (g.secretKeys ns) s t) :
    (s.exec (converge ns name g)).1 = (t.exec (converge ns name g)).1 ∧
      ∀ key ∈ g.ownKeys ns name,
        AlikeAt key s (s.exec (converge ns name g)).2 (t.exec (converge ns name g)).2 := by
  have hgets : .get ∉ s.failing := by simp [hfs]
  have hgett : .get ∉ t.failing := by simp [hft]
  have hprepare : (s.exec (prepare ns name g)).1 = (t.exec (prepare ns name g)).1 :=
    fst_exec_prepare_congr hs ht hgets hgett hsecrets
  cases hread : (s.exec (prepare ns name g)).1 with
  | error e =>
      obtain ⟨hresult, hcontents⟩ := exec_converge_of_error hs hfs hread
      obtain ⟨hresult', hcontents'⟩ := exec_converge_of_error ht hft (hprepare.symm.trans hread)
      refine ⟨hresult.trans hresult'.symm, fun key hkey => ?_⟩
      refine (AlikeAt.refl key s).congr rfl (congrArg (·.objects.get? key) hcontents) ?_
      exact (congrArg (·.objects.get? key) hcontents').trans (hown key hkey).symm
  | ok objects =>
      obtain ⟨hresult, hcontents⟩ := exec_converge_of_ok hs hfs hread
      obtain ⟨hresult', hcontents'⟩ := exec_converge_of_ok ht hft (hprepare.symm.trans hread)
      obtain ⟨c, -, hdesired⟩ := (exec_prepare hs hgets).1 hread
      refine ⟨hresult.trans hresult'.symm, fun key hkey => ?_⟩
      exact (alikeAt_settleAll_wanted hs hdesired hns hown hkey).congr rfl
        (congrArg (·.objects.get? key) hcontents) (congrArg (·.objects.get? key) hcontents')

/-- A store that agrees with another one on what a run for a gateway looks at is left alike by
such a run, and the results are the same. -/
theorem alikeAt_reconcile (hstored : s.object? .gateway ns name = some g)
    (hown : AgreeOn (g.ownKeys ns name) s t) (hsecrets : AgreeOn (g.secretKeys ns) s t) :
    (s.exec (reconcile ns name)).1 = (t.exec (reconcile ns name)).1 ∧
      ∀ key ∈ g.ownKeys ns name,
        AlikeAt key s (s.exec (reconcile ns name)).2 (t.exec (reconcile ns name)).2 := by
  have hgets : .get ∉ s.failing := by simp [hfs]
  have hgett : .get ∉ t.failing := by simp [hft]
  have hns : g.metadata.namespace = some ns :=
    (Kind.storeKey_eq_ok.1 (hs.keeps hstored).storeKey).2.1
  have hstored' : t.object? .gateway ns name = some g :=
    (MemoryStore.object?_congr (hown _ List.mem_cons_self)).symm.trans hstored
  by_cases hlacks : g.spec.lacksDefaults
  · obtain ⟨hresult, hcontents⟩ := exec_reconcile_of_lacksDefaults hs hfs hstored hlacks
    obtain ⟨hresult', hcontents'⟩ := exec_reconcile_of_lacksDefaults ht hft hstored' hlacks
    refine ⟨hresult.trans hresult'.symm, fun key hkey => ?_⟩
    exact (alikeAt_write_defaulted hs hstored (hown key hkey)).congr rfl
      (congrArg (·.objects.get? key) hcontents) (congrArg (·.objects.get? key) hcontents')
  · rw [exec_reconcile_of_stored hs hstored hgets hlacks,
      exec_reconcile_of_stored ht hstored' hgett hlacks]
    -- Reading the gateway changes nothing but the calls.
    have hs' := hs.record .get ⟨.gateway, ns, name⟩
    have ht' := ht.record .get ⟨.gateway, ns, name⟩
    obtain ⟨hresult, halike⟩ := alikeAt_converge hs' ht' hfs hft hns hown hsecrets
    exact ⟨hresult, fun key hkey => (halike key hkey).congr rfl rfl rfl⟩

end Agreement

/-! ## Two gateways -/

/-- A run writes no other keys than those of its gateway and the objects of the gateway. -/
theorem get?_exec_of_notMem_ownKeys (hs : s.Sound) (hstored : s.object? .gateway ns name = some g)
    (hkey : key ∉ g.ownKeys ns name) :
    (s.exec (reconcile ns name)).2.objects.get? key = s.objects.get? key := by
  refine MemoryStore.get?_run_of_notMem fun hwritten => hkey ?_
  have hcases := (course_reconcile hs ns name).written_cases
  rcases hcases with hnone | ⟨hone, -⟩ | ⟨g', hstored', hsublist⟩
  · unfold MemoryStore.execWrites at hnone
    rw [hnone] at hwritten
    cases hwritten
  · unfold MemoryStore.execWrites at hone
    rw [hone] at hwritten
    exact List.mem_cons.2 (.inl (List.mem_singleton.1 hwritten))
  · obtain rfl : g = g' := Option.some.inj (hstored.symm.trans hstored')
    exact List.mem_cons_of_mem _ (hsublist.subset hwritten)

theorem anyName_of_stored (hs : s.Sound) (hstored : s.object? .gateway ns name = some g) :
    g.anyName = name :=
  (Kind.storeKey_eq_ok.1 (hs.keeps hstored).storeKey).2.2

/-- Gateways under different keys have no key in common. -/
theorem ownKeys_disjoint (hname : g.anyName = name) (hname' : g'.anyName = name')
    (hne : (ns, name) ≠ (ns', name')) : ∀ key ∈ g.ownKeys ns name, key ∉ g'.ownKeys ns' name' := by
  have hworkload : ns = ns' → g.workloadName ≠ g'.workloadName := by
    rintro rfl heq
    have hsame : g.anyName = g'.anyName := by simpa [workloadName] using heq
    exact hne (by rw [← hname, ← hname', hsame])
  have hendpoint : ns = ns' → g.endpointSecretName ≠ g'.endpointSecretName := by
    intro hns heq
    have hsame : g.workloadName = g'.workloadName := by simpa [endpointSecretName] using heq
    exact hworkload hns hsame
  have hgateway : ns = ns' → name ≠ name' := fun hns heq => hne (by rw [hns, heq])
  intro key hkey hkey'
  simp only [ownKeys, objectKeys, List.mem_cons, List.not_mem_nil, or_false] at hkey hkey'
  -- Keys of different kinds differ, so each is to be compared with that of its own kind.
  rcases hkey with rfl | rfl | rfl | rfl | rfl <;>
    simp only [StoreKey.mk.injEq, reduceCtorEq, false_and, true_and, false_or, or_false] at hkey'
  · exact hgateway hkey'.1 hkey'.2
  · exact hendpoint hkey'.1 hkey'.2
  · exact hworkload hkey'.1 hkey'.2
  · exact hworkload hkey'.1 hkey'.2
  · exact hworkload hkey'.1 hkey'.2

theorem kind_of_mem_secretKeys (h : key ∈ g.secretKeys ns) : key.kind = .secret := by
  simp only [secretKeys, List.mem_cons, List.mem_map] at h
  rcases h with rfl | rfl | ⟨secret, -, rfl⟩ <;> rfl

/-- The only Secret of a gateway is the one with the endpoint. -/
theorem eq_of_mem_ownKeys (hkind : key.kind = .secret) (h : key ∈ g.ownKeys ns name) :
    key = ⟨.secret, ns, g.endpointSecretName⟩ := by
  simp only [ownKeys, objectKeys, List.mem_cons, List.not_mem_nil, or_false] at h
  rcases h with rfl | rfl | rfl | rfl | rfl
  · cases hkind
  · rfl
  · cases hkind
  · cases hkind
  · cases hkind

theorem secretKeys_disjoint (hrefs : ⟨.secret, ns', g'.endpointSecretName⟩ ∉ g.secretKeys ns) :
    ∀ key ∈ g.secretKeys ns, key ∉ g'.ownKeys ns' name' := by
  intro key hkey hkey'
  rw [eq_of_mem_ownKeys (kind_of_mem_secretKeys hkey) hkey'] at hkey
  exact hrefs hkey

/-- Neither gateway refers to the Secret that is made for the other one, and they are different. -/
structure Apart (g : Gateway) (ns name : String) (g' : Gateway) (ns' name' : String) : Prop where
  ne : (ns, name) ≠ (ns', name')
  refs : ⟨.secret, ns', g'.endpointSecretName⟩ ∉ g.secretKeys ns
  refs' : ⟨.secret, ns, g.endpointSecretName⟩ ∉ g'.secretKeys ns'

theorem Apart.symm (h : g.Apart ns name g' ns' name') : g'.Apart ns' name' g ns name :=
  ⟨h.ne.symm, h.refs', h.refs⟩

/-- A run for one gateway leaves all that a run for the other one looks at. -/
theorem Apart.agreeOn (h : g.Apart ns name g' ns' name') (hs : s.Sound)
    (hstored : s.object? .gateway ns name = some g)
    (hstored' : s.object? .gateway ns' name' = some g') :
    AgreeOn (g.ownKeys ns name) s (s.exec (reconcile ns' name')).2 ∧
      AgreeOn (g.secretKeys ns) s (s.exec (reconcile ns' name')).2 := by
  have hname := anyName_of_stored hs hstored
  have hname' := anyName_of_stored hs hstored'
  constructor
  · intro key hkey
    have hother := ownKeys_disjoint hname hname' h.ne key hkey
    exact (get?_exec_of_notMem_ownKeys hs hstored' hother).symm
  · intro key hkey
    exact (get?_exec_of_notMem_ownKeys hs hstored' (secretKeys_disjoint h.refs key hkey)).symm

/-- Behind a run for another gateway, a run for a gateway ends as it does without, and what it
leaves of the gateway and its objects is alike. -/
theorem Apart.alikeAt (h : g.Apart ns name g' ns' name') (hs : s.Sound) (hfailing : s.failing = [])
    (hstored : s.object? .gateway ns name = some g)
    (hstored' : s.object? .gateway ns' name' = some g') :
    let t := (s.exec (reconcile ns' name')).2
    (s.exec (reconcile ns name)).1 = (t.exec (reconcile ns name)).1 ∧
      (∀ key ∈ g.ownKeys ns name,
        AlikeAt key s (s.exec (reconcile ns name)).2 (t.exec (reconcile ns name)).2) ∧
      ∀ key ∉ g.ownKeys ns name,
        (t.exec (reconcile ns name)).2.objects.get? key = t.objects.get? key := by
  intro t
  have ht : t.Sound := hs.run _
  have hft : t.failing = [] := (MemoryStore.failing_run _).trans hfailing
  obtain ⟨hown, hsecrets⟩ := h.agreeOn hs hstored hstored'
  have hthere : t.object? .gateway ns name = some g :=
    (MemoryStore.object?_congr (hown ⟨.gateway, ns, name⟩ List.mem_cons_self)).symm.trans hstored
  obtain ⟨hresult, halike⟩ := alikeAt_reconcile hs ht hfailing hft hstored hown hsecrets
  exact ⟨hresult, halike, fun key hkey => get?_exec_of_notMem_ownKeys ht hthere hkey⟩

/-- For two gateways of which neither refers to the Secret of the other one, runs in either order
have the same results.  What they leave in the store is the same but for the versions and for
identifiers that the store gives to new objects. -/
theorem reconcile_independent (hs : s.Reachable) (hfailing : s.failing = [])
    (hg : s.peek .gateway ns name = .ok (some g))
    (hg' : s.peek .gateway ns' name' = .ok (some g'))
    (hapart : g.Apart ns name g' ns' name') :
    let first := s.exec (reconcile ns name)
    let second := first.2.exec (reconcile ns' name')
    let first' := s.exec (reconcile ns' name')
    let second' := first'.2.exec (reconcile ns name)
    first.1 = second'.1 ∧ second.1 = first'.1 ∧
      ∀ k n m, ∃ old new new', s.peek k n m = .ok old ∧ second.2.peek k n m = .ok new ∧
        second'.2.peek k n m = .ok new' ∧ MemoryStore.Alike old new new' := by
  intro first second first' second'
  have hsound := hs.sound
  have hstored : s.object? .gateway ns name = some g := by simpa [hsound.peek_eq] using hg
  have hstored' : s.object? .gateway ns' name' = some g' := by simpa [hsound.peek_eq] using hg'
  obtain ⟨hresult, halike, hrest⟩ := hapart.alikeAt hsound hfailing hstored hstored'
  obtain ⟨hresult', halike', hrest'⟩ := hapart.symm.alikeAt hsound hfailing hstored' hstored
  have hleft (key : StoreKey) (hkey : key ∉ g.ownKeys ns name) :
      first.2.objects.get? key = s.objects.get? key :=
    get?_exec_of_notMem_ownKeys hsound hstored hkey
  have hleft' (key : StoreKey) (hkey : key ∉ g'.ownKeys ns' name') :
      first'.2.objects.get? key = s.objects.get? key :=
    get?_exec_of_notMem_ownKeys hsound hstored' hkey
  have hdisjoint := ownKeys_disjoint (anyName_of_stored hsound hstored)
    (anyName_of_stored hsound hstored') hapart.ne
  have hstores (key : StoreKey) : AlikeAt key s second.2 second'.2 := by
    by_cases hkey : key ∈ g.ownKeys ns name
    · exact (halike key hkey).congr rfl (hrest' key (hdisjoint key hkey)) rfl
    · by_cases hkey' : key ∈ g'.ownKeys ns' name'
      · exact (halike' key hkey').symm.congr rfl rfl (hrest key hkey)
      · refine (AlikeAt.refl key s).congr rfl ?_ ?_
        · exact (hrest' key hkey').trans (hleft key hkey)
        · exact (hrest key hkey).trans (hleft' key hkey')
  have hsecond : second.2.Sound := (hsound.run _).run _
  have hsecond' : second'.2.Sound := (hsound.run _).run _
  refine ⟨hresult, hresult'.symm, fun k n m => ?_⟩
  exact ⟨_, _, _, hsound.peek_eq k n m, hsecond.peek_eq k n m, hsecond'.peek_eq k n m,
    hstores ⟨k, n, m⟩⟩

/-- Another gateway to the same portal, which still lacks a default. -/
def twinGateway : Gateway :=
  { metadata := { name := some "twin", «namespace» := some "apis" }
    spec := { portalGateway.spec with image := none } }

/-- A store that holds both gateways and the Secret that they share. -/
def twinStore : MemoryStore := (portalStore.insert .gateway twinGateway).2

theorem twinStore_independent :
    (twinStore.exec (reconcile "apis" "edge")).1 =
        ((twinStore.exec (reconcile "apis" "twin")).2.exec (reconcile "apis" "edge")).1 ∧
      ((twinStore.exec (reconcile "apis" "edge")).2.exec (reconcile "apis" "twin")).1 =
        (twinStore.exec (reconcile "apis" "twin")).1 := by
  have hg : twinStore.peek .gateway "apis" "edge" =
      .ok (some (MemoryStore.keptObject .gateway portalGateway 2)) := rfl
  have hg' : twinStore.peek .gateway "apis" "twin" =
      .ok (some (MemoryStore.keptObject .gateway twinGateway 3)) := rfl
  have hindependent := reconcile_independent (reachable_portalStore.insert _ _) rfl hg hg'
    ⟨by decide, by decide, by decide⟩
  exact ⟨hindependent.1, hindependent.2.1⟩

end Gateway

end ApiPlatform
