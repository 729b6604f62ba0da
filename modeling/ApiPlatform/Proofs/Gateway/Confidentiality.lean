import ApiPlatform.Proofs.Gateway.Inputs
import ApiPlatform.Proofs.Reconcile.SecretValues
/-!
# The access token stays in Secrets

A run reads the access token from one Secret and writes it to another one, as the user of the portal
endpoint.  How the run goes depends on whether there is a token, and on nothing that the token says.
So in two stores that differ in the token alone a run ends in the same way, and what it leaves
differs in the token, in the values of the Secret that is made for the gateway, and in what a store
gives to the objects that it keeps.
-/

namespace ApiPlatform

/-! ## What the token has an influence on -/

/-- Whether there is an endpoint, and why there is none, depends on the URL. -/
theorem AdminPortalCredentials.map_endpoint_congr {c c' : AdminPortalCredentials}
    (h : c.url = c'.url) : c.endpoint.map (fun _ => ()) = c'.endpoint.map fun _ => () := by
  unfold endpoint endpointUrl
  rw [h]
  cases Url.parse c'.url with
  | error e => rfl
  | ok u =>
      dsimp only [Url.withUsername]
      cases u.authority <;> simp only [Option.map_some, Option.map_none, Except.map]

/-- The objects of a gateway without the endpoint. -/
def DesiredObjects.sealed (d : DesiredObjects) : DesiredObjects :=
  { d with adminPortalEndpoint := d.adminPortalEndpoint.emptied }

/-- Objects that differ in the endpoint are the same behind it. -/
theorem DesiredObjects.wanted_of_sealed_eq {d d' : DesiredObjects} (h : d.sealed = d'.sealed) :
    ∃ rest, d.wanted = ⟨.secret, d.adminPortalEndpoint⟩ :: rest ∧
      d'.wanted = ⟨.secret, d'.adminPortalEndpoint⟩ :: rest := by
  obtain ⟨secret, deployment, service, ingress⟩ := d
  obtain ⟨secret', deployment', service', ingress'⟩ := d'
  simp only [sealed, DesiredObjects.mk.injEq] at h
  obtain ⟨-, rfl, rfl, rfl⟩ := h
  exact ⟨_, rfl, rfl⟩

namespace Gateway

open MemoryStore (AgreeOn AlikeAt AlikeButValuesAt SameButValue)

variable {g : Gateway} {c c' : AdminPortalCredentials} {objects objects' : DesiredObjects}
  {ns name : String} {s t u u' : MemoryStore}

/-- The objects depend on the token in the endpoint only. -/
theorem map_desired_congr (h : c.url = c'.url) :
    (g.desired c).map DesiredObjects.sealed = (g.desired c').map DesiredObjects.sealed := by
  have hendpoint := AdminPortalCredentials.map_endpoint_congr h
  unfold desired
  cases g.metadata.namespace with
  | none => rfl
  | some ns =>
      cases Kind.gateway.ownerReference g none (some true) with
      | error e => rfl
      | ok owner =>
          obtain ⟨e, hc, hc'⟩ | ⟨endpoint, endpoint', hc, hc', -⟩ :=
            Failure.cases_of_map_eq hendpoint
          · rw [hc, hc']
          · rw [hc, hc']
            cases g.replicaCount <;> rfl

section Reading

variable (hs : s.Sound) (ht : t.Sound) (hgets : .get ∉ s.failing) (hgett : .get ∉ t.failing)
include hs ht hgets hgett

/-- As much as two stores say of a value, so much is the same of what is read. -/
theorem map_fst_exec_secretValue_congr {α β : Type} (look : Secret → α) (look' : String → β)
    (r : SecretKeyRef) (use : SecretUse)
    (h : (s.object? .secret ns r.name).map look = (t.object? .secret ns r.name).map look)
    (hlook : ∀ secret secret', look secret = look secret' →
      (secret.strings.get? r.key).map look' = (secret'.strings.get? r.key).map look') :
    (s.exec (secretValue ns r use)).1.map look' = (t.exec (secretValue ns r use)).1.map look' := by
  refine MemoryStore.map_fst_exec_bind_congr look look' (isReadOnly_requiredSecret _ _ _)
    (map_fst_exec_requiredSecret_congr hs ht hgets hgett look h use) fun secret secret' hsame => ?_
  have hvalue := hlook secret secret' hsame
  cases hfound : secret.strings.get? r.key <;> cases hfound' : secret'.strings.get? r.key <;>
    simp only [hfound, hfound', Option.map_some, Option.map_none, Option.some_inj, reduceCtorEq]
      at hvalue
  · rfl
  · exact congrArg Except.ok hvalue

variable (hsame : SameButValue ns g.spec.adminPortal.accessToken s t)
  (hurl : g.spec.adminPortal.url ≠ g.spec.adminPortal.accessToken)
include hsame

theorem fst_exec_checkEnvironment_of_same :
    (s.exec (checkEnvironment ns g)).1 = (t.exec (checkEnvironment ns g)).1 := by
  unfold checkEnvironment
  cases g.spec.environmentSecret with
  | none => rfl
  | some secret =>
      have hread := map_fst_exec_requiredSecret_congr hs ht hgets hgett (fun _ => ())
        (hsame.map_unit secret) .environment
      let check : StoreM GatewayError Unit := do
        let _ ← requiredSecret ns secret .environment
        pure ()
      have hcheck : (s.exec check).1.map id = (t.exec check).1.map id :=
        MemoryStore.map_fst_exec_bind_congr (fun _ => ()) id (isReadOnly_requiredSecret _ _ _)
          hread fun _ _ _ => rfl
      simpa only [Except.map_id, id] using hcheck

include hurl

theorem fst_exec_url_of_same :
    (s.exec (secretValue ns g.spec.adminPortal.url .url)).1 =
      (t.exec (secretValue ns g.spec.adminPortal.url .url)).1 := by
  by_cases hname : g.spec.adminPortal.url.name = g.spec.adminPortal.accessToken.name
  · -- In the Secret of the token the URL has another key, under which nothing is masked.
    have hkey : g.spec.adminPortal.url.key ≠ g.spec.adminPortal.accessToken.key := by
      intro hkey
      exact hurl (by rw [SecretKeyRef.mk.injEq]; exact ⟨hname, hkey⟩)
    have hread := map_fst_exec_secretValue_congr hs ht hgets hgett
      (Secret.masked g.spec.adminPortal.accessToken.key) id g.spec.adminPortal.url .url
      (by rw [hname]; exact hsame.secret) fun secret secret' h => by
        rw [Secret.get?_strings_of_masked_eq h hkey]
    simpa only [Except.map_id, id] using hread
  · exact fst_exec_secretValue_congr hs ht hgets hgett _ _ (hsame.others _ (by simp [hname]))

theorem map_fst_exec_credentials_of_same :
    (s.exec (credentials ns g)).1.map (·.url) = (t.exec (credentials ns g)).1.map (·.url) := by
  have hread := fst_exec_url_of_same hs ht hgets hgett hsame hurl
  -- Of the token, no more is looked at than that it is there.
  have htoken := map_fst_exec_secretValue_congr hs ht hgets hgett
    (Secret.masked g.spec.adminPortal.accessToken.key) (fun _ => ()) g.spec.adminPortal.accessToken
    .accessToken hsame.secret fun secret secret' h => Secret.map_get?_strings_of_masked_eq h
  refine MemoryStore.map_fst_exec_bind_congr id _ (isReadOnly_secretValue _ _ _)
    (congrArg _ hread) fun url url' heq => ?_
  obtain rfl : url = url' := heq
  exact MemoryStore.map_fst_exec_bind_congr (fun _ => ()) _ (isReadOnly_secretValue _ _ _)
    htoken fun _ _ _ => rfl

/-- What is read differs in the endpoint only. -/
theorem map_fst_exec_prepare_of_same :
    (s.exec (prepare ns name g)).1.map DesiredObjects.sealed =
      (t.exec (prepare ns name g)).1.map DesiredObjects.sealed := by
  refine MemoryStore.map_fst_exec_bind_congr (·.url) _ (isReadOnly_credentials _ _)
    (map_fst_exec_credentials_of_same hs ht hgets hgett hsame hurl) fun c c' hc => ?_
  have hcheck := fst_exec_checkEnvironment_of_same hs ht hgets hgett hsame
  refine MemoryStore.map_fst_exec_bind_congr id _ (isReadOnly_checkEnvironment _ _)
    (congrArg _ hcheck) fun _ _ _ => ?_
  rw [MemoryStore.exec_ofExcept, MemoryStore.exec_ofExcept]
  dsimp only
  obtain ⟨e, hleft, hright⟩ | ⟨objects, objects', hleft, hright, hsealed⟩ :=
    Failure.cases_of_map_eq (map_desired_congr hc)
  · rw [hleft, hright]
  · rw [hleft, hright]
    exact congrArg Except.ok hsealed

end Reading

/-! ## What is left of the two stores -/

/-- Of two stores, all that they had in common is left alike, the values of the Secret that is made
for the gateway aside. -/
structure LeftAlike (g : Gateway) (ns : String) (s t u u' : MemoryStore) : Prop where
  endpoint : AlikeButValuesAt ns g.endpointSecretName s u u'
  others : ∀ key ≠ g.endpointSecretKey ns, s.objects.get? key = t.objects.get? key →
    AlikeAt key s u u'

theorem LeftAlike.of_alikeAt (hget : s.objects.get? (g.endpointSecretKey ns) =
      t.objects.get? (g.endpointSecretKey ns))
    (h : ∀ key, s.objects.get? key = t.objects.get? key → AlikeAt key s u u') :
    g.LeftAlike ns s t u u' where
  endpoint := (h _ hget).butValues
  others key _ hkey := h key hkey

theorem LeftAlike.of_contents_eq {s' t' v v' : MemoryStore} (h : g.LeftAlike ns s t u u')
    (hs : s.contents = s'.contents) (ht : t.contents = t'.contents) (hu : u.contents = v.contents)
    (hu' : u'.contents = v'.contents) : g.LeftAlike ns s' t' v v' := by
  have hget (a b : MemoryStore) (heq : a.contents = b.contents) (key : StoreKey) :
      b.objects.get? key = a.objects.get? key := by
    rw [(MemoryStore.contents_eq_iff.1 heq).1]
  refine ⟨h.endpoint.congr (hget _ _ hs _) (hget _ _ hu _) (hget _ _ hu' _), ?_⟩
  intro key hne hkey
  rw [hget _ _ hs, hget _ _ ht] at hkey
  exact (h.others key hne hkey).congr (hget _ _ hs _) (hget _ _ hu _) (hget _ _ hu' _)

/-- Settling the objects of a gateway with one token or with another one. -/
theorem leftAlike_settleAll (hs : s.Sound) (ht : t.Sound) (hdesired : g.desired c = .ok objects)
    (hsealed : objects.sealed = objects'.sealed) (hns : g.metadata.namespace = some ns)
    (hown : AgreeOn (g.ownKeys ns name) s t) :
    g.LeftAlike ns s t (WantedObject.settleAll objects.wanted s)
      (WantedObject.settleAll objects'.wanted t) := by
  -- The Secret comes first, and what comes behind it is the same with either token.
  obtain ⟨rest, hwanted, hwanted'⟩ := DesiredObjects.wanted_of_sealed_eq hsealed
  have hkey : (⟨.secret, objects.adminPortalEndpoint⟩ : WantedObject).storeKey =
      .ok (g.endpointSecretKey ns) := by
    obtain ⟨ns', endpoint, replicas, owner, hns', rfl⟩ := desired_cases hdesired
    obtain rfl := Option.some.inj (hns.symm.trans hns')
    rfl
  have hkeys := exists_storeKey_wanted hdesired
  have hdistinct := pairwise_storeKey_wanted objects
  have huid := uid_wanted hdesired
  have hget : ∀ w ∈ objects.wanted, ∀ key, w.storeKey = .ok key →
      s.objects.get? key = t.objects.get? key :=
    fun w hw key hkey =>
      hown key (List.mem_cons_of_mem _ (storeKey_wanted_mem hdesired hns hw hkey))
  rw [hwanted] at hkeys hdistinct huid hget
  rw [hwanted, hwanted']
  obtain ⟨hfirst, hothers⟩ := WantedObject.alike_settleAll_of_emptied_eq hs ht hkey
    (congrArg (·.adminPortalEndpoint) hsealed) (List.forall_mem_cons.1 hkeys).2 hdistinct huid hget
  exact ⟨hfirst, hothers⟩

theorem endpointSecretKey_mem_ownKeys (g : Gateway) (ns name : String) :
    g.endpointSecretKey ns ∈ g.ownKeys ns name := by
  simp [ownKeys, objectKeys, endpointSecretKey]

/-- None of the keys that are written is that of the token. -/
theorem agreeOn_ownKeys_of_same (hsame : SameButValue ns g.spec.adminPortal.accessToken s t)
    (hendpoint : g.spec.adminPortal.accessToken.name ≠ g.endpointSecretName) :
    AgreeOn (g.ownKeys ns name) s t := by
  intro key hkey
  refine hsame.others key ?_
  rintro rfl
  exact hendpoint (congrArg StoreKey.name (eq_of_mem_ownKeys rfl hkey))

section Runs

variable (hs : s.Sound) (ht : t.Sound) (hfs : s.failing = []) (hft : t.failing = [])
  (hsame : SameButValue ns g.spec.adminPortal.accessToken s t)
  (hurl : g.spec.adminPortal.url ≠ g.spec.adminPortal.accessToken)
  (hendpoint : g.spec.adminPortal.accessToken.name ≠ g.endpointSecretName)
include hs ht hfs hft hsame hurl hendpoint

theorem leftAlike_converge (hns : g.metadata.namespace = some ns) :
    (s.exec (converge ns name g)).1 = (t.exec (converge ns name g)).1 ∧
      g.LeftAlike ns s t (s.exec (converge ns name g)).2 (t.exec (converge ns name g)).2 := by
  have hgets : .get ∉ s.failing := by simp [hfs]
  have hgett : .get ∉ t.failing := by simp [hft]
  have hown : AgreeOn (g.ownKeys ns name) s t := agreeOn_ownKeys_of_same hsame hendpoint
  have hprepare : (s.exec (prepare ns name g)).1.map DesiredObjects.sealed =
      (t.exec (prepare ns name g)).1.map DesiredObjects.sealed :=
    map_fst_exec_prepare_of_same hs ht hgets hgett hsame hurl
  obtain ⟨e, hread, hread'⟩ | ⟨objects, objects', hread, hread', hsealed⟩ :=
    Failure.cases_of_map_eq hprepare
  · obtain ⟨hresult, hcontents⟩ := exec_converge_of_error hs hfs hread
    obtain ⟨hresult', hcontents'⟩ := exec_converge_of_error ht hft hread'
    have hkept : g.LeftAlike ns s t s t :=
      .of_alikeAt (hown _ (endpointSecretKey_mem_ownKeys g ns name))
        fun key hkey => (AlikeAt.refl key s).congr rfl rfl hkey.symm
    exact ⟨hresult.trans hresult'.symm,
      hkept.of_contents_eq rfl rfl hcontents.symm hcontents'.symm⟩
  · obtain ⟨hresult, hcontents⟩ := exec_converge_of_ok hs hfs hread
    obtain ⟨hresult', hcontents'⟩ := exec_converge_of_ok ht hft hread'
    obtain ⟨c, -, hdesired⟩ := (exec_prepare hs hgets).1 hread
    have hleft := leftAlike_settleAll hs ht hdesired hsealed hns hown
    refine ⟨hresult.trans hresult'.symm, hleft.of_contents_eq rfl rfl ?_ ?_⟩
    · rw [hcontents, WantedObject.contents_settleAll]
    · rw [hcontents', WantedObject.contents_settleAll]

/-- Whatever the token says, a run ends in the same way, and leaves the same. -/
theorem leftAlike_reconcile (hstored : s.object? .gateway ns name = some g) :
    (s.exec (reconcile ns name)).1 = (t.exec (reconcile ns name)).1 ∧
      g.LeftAlike ns s t (s.exec (reconcile ns name)).2 (t.exec (reconcile ns name)).2 := by
  have hgets : .get ∉ s.failing := by simp [hfs]
  have hgett : .get ∉ t.failing := by simp [hft]
  have hns : g.metadata.namespace = some ns :=
    (Kind.storeKey_eq_ok.1 (hs.keeps hstored).storeKey).2.1
  have hown : AgreeOn (g.ownKeys ns name) s t := agreeOn_ownKeys_of_same hsame hendpoint
  have hstored' : t.object? .gateway ns name = some g :=
    (MemoryStore.object?_congr (hown _ List.mem_cons_self)).symm.trans hstored
  by_cases hlacks : g.spec.lacksDefaults
  · obtain ⟨hresult, hcontents⟩ := exec_reconcile_of_lacksDefaults hs hfs hstored hlacks
    obtain ⟨hresult', hcontents'⟩ := exec_reconcile_of_lacksDefaults ht hft hstored' hlacks
    refine ⟨hresult.trans hresult'.symm, ?_⟩
    refine .of_alikeAt (hown _ (endpointSecretKey_mem_ownKeys g ns name)) fun key hkey => ?_
    exact (alikeAt_write_defaulted hs hstored hkey).congr rfl
      (congrArg (·.objects.get? key) hcontents) (congrArg (·.objects.get? key) hcontents')
  · rw [exec_reconcile_of_stored hs hstored hgets hlacks,
      exec_reconcile_of_stored ht hstored' hgett hlacks]
    -- Reading the gateway changes nothing but the calls.
    have hs' := hs.record .get ⟨.gateway, ns, name⟩
    have ht' := ht.record .get ⟨.gateway, ns, name⟩
    obtain ⟨hresult, hleft⟩ := leftAlike_converge hs' ht' hfs hft
      (hsame.of_contents_eq rfl rfl) hurl hendpoint hns
    exact ⟨hresult, hleft.of_contents_eq rfl rfl rfl rfl⟩

end Runs

/-- In two stores that refuse nothing and hold the same but for the value of the access token, which
is neither the URL nor in the Secret that is made for the gateway, a run ends with the same result,
so an error has the same message and the same causes.  Afterwards the stores hold the same again but
for the token, for the values of the Secret that is made for the gateway, for the versions, and for
identifiers that the store gives to new objects. -/
theorem reconcile_hides_token (hs : s.Reachable) (ht : t.Reachable) (hfs : s.failing = [])
    (hft : t.failing = []) (hg : s.peek .gateway ns name = .ok (some g))
    (hsame : SameButValue ns g.spec.adminPortal.accessToken s t)
    (hurl : g.spec.adminPortal.url ≠ g.spec.adminPortal.accessToken)
    (hendpoint : g.spec.adminPortal.accessToken.name ≠ g.endpointSecretName) :
    let token := g.spec.adminPortal.accessToken
    let left := s.exec (reconcile ns name)
    let left' := t.exec (reconcile ns name)
    left.1 = left'.1 ∧
      (∃ secret secret', left.2.peek .secret ns token.name = .ok secret ∧
        left'.2.peek .secret ns token.name = .ok secret' ∧
        secret.map (Secret.masked token.key) = secret'.map (Secret.masked token.key)) ∧
      (∃ old new new', s.peek .secret ns g.endpointSecretName = .ok old ∧
        left.2.peek .secret ns g.endpointSecretName = .ok new ∧
        left'.2.peek .secret ns g.endpointSecretName = .ok new' ∧
        MemoryStore.Alike (k := .secret) (old.map Secret.emptied) (new.map Secret.emptied)
          (new'.map Secret.emptied)) ∧
      ∀ k n m, (⟨k, n, m⟩ : StoreKey) ≠ ⟨.secret, ns, token.name⟩ →
        (⟨k, n, m⟩ : StoreKey) ≠ g.endpointSecretKey ns →
        ∃ old new new', s.peek k n m = .ok old ∧ left.2.peek k n m = .ok new ∧
          left'.2.peek k n m = .ok new' ∧ MemoryStore.Alike old new new' := by
  intro token left left'
  have hsound := hs.sound
  have hsound' := ht.sound
  have hleft : left.2.Sound := hsound.run _
  have hleft' : left'.2.Sound := hsound'.run _
  have hstored : s.object? .gateway ns name = some g := by simpa [hsound.peek_eq] using hg
  have hown : AgreeOn (g.ownKeys ns name) s t := agreeOn_ownKeys_of_same hsame hendpoint
  have hstored' : t.object? .gateway ns name = some g :=
    (MemoryStore.object?_congr (hown _ List.mem_cons_self)).symm.trans hstored
  obtain ⟨hresult, halike⟩ :=
    leftAlike_reconcile hsound hsound' hfs hft hsame hurl hendpoint hstored
  have hkey : (⟨.secret, ns, token.name⟩ : StoreKey) ≠ g.endpointSecretKey ns :=
    fun heq => hendpoint (congrArg StoreKey.name heq)
  refine ⟨hresult, ?_, ?_, fun k n m htoken hne => ?_⟩
  · refine ⟨_, _, hleft.peek_eq _ _ _, hleft'.peek_eq _ _ _, ?_⟩
    have hkept : left.2.object? .secret ns token.name = s.object? .secret ns token.name :=
      MemoryStore.object?_congr (get?_exec_of_secret hsound hstored rfl hkey)
    have hkept' : left'.2.object? .secret ns token.name = t.object? .secret ns token.name :=
      MemoryStore.object?_congr (get?_exec_of_secret hsound' hstored' rfl hkey)
    rw [hkept, hkept']
    exact hsame.secret
  · exact ⟨_, _, _, hsound.peek_eq _ _ _, hleft.peek_eq _ _ _, hleft'.peek_eq _ _ _,
      halike.endpoint⟩
  · exact ⟨_, _, _, hsound.peek_eq _ _ _, hleft.peek_eq _ _ _, hleft'.peek_eq _ _ _,
      halike.others _ hne (hsame.others _ htoken)⟩

/-- The Secret of the portal with another token. -/
def renewedSecret : Secret :=
  { portalSecret with stringData := some (.ofList [("url", "a://b"), ("token", "u")]) }

theorem peek_insert_portalSecret :
    (portalStore.insert .secret portalSecret).2.peek .gateway "apis" "edge" =
      .ok (some (MemoryStore.keptObject .gateway portalGateway 2)) := rfl

theorem sameButValue_renewedSecret :
    SameButValue "apis" ⟨"portal", "token"⟩ (portalStore.insert .secret portalSecret).2
      (portalStore.insert .secret renewedSecret).2 :=
  .of_insert portalStore rfl rfl rfl

theorem renewedSecret_hidden :
    ((portalStore.insert .secret portalSecret).2.exec (reconcile "apis" "edge")).1 =
      ((portalStore.insert .secret renewedSecret).2.exec (reconcile "apis" "edge")).1 :=
  (reconcile_hides_token (reachable_portalStore.insert _ _) (reachable_portalStore.insert _ _) rfl
    rfl peek_insert_portalSecret sameButValue_renewedSecret (by decide) (by decide)).1

end Gateway

end ApiPlatform
