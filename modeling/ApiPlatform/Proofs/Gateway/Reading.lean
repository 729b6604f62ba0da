import ApiPlatform.Proofs.Gateway.Placing
/-!
# What a gateway reads

Between the gateway itself and the first object that it places, a run only reads: the two
credentials, and whether the Secret with further variables is there (`Gateway.Reads`).  Placing the
objects changes none of that, unless a credential is looked for in the Secret that is placed.
-/

namespace ApiPlatform

/-- The value that a key of a stored Secret has. -/
def MemoryStore.secretText? (s : MemoryStore) (ns : String) (r : SecretKeyRef) : Option String :=
  if r.name = "" then none else (s.object? .secret ns r.name).bind (·.strings.get? r.key)

namespace Gateway

variable {g : Gateway} {c c' : AdminPortalCredentials} {objects : DesiredObjects}
  {ns name : String} {s t : MemoryStore}

/-- The store has the credentials of a gateway, and the Secret that it wants to be there. -/
structure Reads (g : Gateway) (ns : String) (s : MemoryStore) (c : AdminPortalCredentials) :
    Prop where
  url : s.secretText? ns g.spec.adminPortal.url = some c.url
  accessToken : s.secretText? ns g.spec.adminPortal.accessToken = some c.accessToken
  environment : ∀ secret, g.spec.environmentSecret = some secret →
    secret ≠ "" ∧ (s.object? .secret ns secret).isSome

/-- The store has all that it takes to build the objects of a gateway. -/
def Prepared (g : Gateway) (ns : String) (s : MemoryStore) (objects : DesiredObjects) : Prop :=
  ∃ c, g.Reads ns s c ∧ g.desired c = .ok objects

theorem Reads.unique (h : g.Reads ns s c) (h' : g.Reads ns s c') : c = c' := by
  obtain ⟨url, accessToken⟩ := c
  obtain ⟨url', accessToken'⟩ := c'
  have hurl := h.url.symm.trans h'.url
  have htoken := h.accessToken.symm.trans h'.accessToken
  simp only [Option.some_inj] at hurl htoken
  rw [hurl, htoken]

theorem Prepared.unique {objects' : DesiredObjects} (h : g.Prepared ns s objects)
    (h' : g.Prepared ns s objects') : objects = objects' := by
  obtain ⟨c, hreads, hobjects⟩ := h
  obtain ⟨c', hreads', hobjects'⟩ := h'
  obtain rfl := hreads.unique hreads'
  exact Except.ok.inj (hobjects.symm.trans hobjects')

/-- The part of a run that reads. -/
def prepare («namespace» name : String) (g : Gateway) : StoreM GatewayError DesiredObjects := do
  let c ← credentials «namespace» g
  checkEnvironment «namespace» g
  StoreM.ofExcept ((g.desired c).mapError (GatewayError.buildObjects name))

/-! ## Reading only -/

theorem isReadOnly_requiredSecret (ns name : String) (use : SecretUse) :
    StoreM.IsReadOnly (requiredSecret ns name use) := by
  unfold requiredSecret
  split_ifs
  · exact StoreM.isReadOnly_throw _
  · refine ((StoreM.isReadOnly_get _ _ _).mapError _).bind fun found => ?_
    cases found with
    | none => exact StoreM.isReadOnly_throw _
    | some secret => exact StoreM.isReadOnly_pure secret

theorem isReadOnly_secretValue (ns : String) (r : SecretKeyRef) (use : SecretUse) :
    StoreM.IsReadOnly (secretValue ns r use) := by
  refine (isReadOnly_requiredSecret ns r.name use).bind fun secret => ?_
  cases secret.strings.get? r.key with
  | none => exact StoreM.isReadOnly_throw _
  | some value => exact StoreM.isReadOnly_pure value

theorem isReadOnly_credentials (ns : String) (g : Gateway) :
    StoreM.IsReadOnly (credentials ns g) :=
  (isReadOnly_secretValue _ _ _).bind fun _ =>
    (isReadOnly_secretValue _ _ _).bind fun _ => StoreM.isReadOnly_pure _

theorem isReadOnly_checkEnvironment (ns : String) (g : Gateway) :
    StoreM.IsReadOnly (checkEnvironment ns g) := by
  unfold checkEnvironment
  cases g.spec.environmentSecret with
  | none => exact StoreM.isReadOnly_pure ()
  | some secret =>
      exact (isReadOnly_requiredSecret _ _ _).bind fun _ => StoreM.isReadOnly_pure ()

theorem isReadOnly_prepare (ns name : String) (g : Gateway) :
    StoreM.IsReadOnly (prepare ns name g) :=
  (isReadOnly_credentials ns g).bind fun _ =>
    (isReadOnly_checkEnvironment ns g).bind fun _ => StoreM.isReadOnly_ofExcept _

/-! ## What is read -/

variable (hs : s.Sound) (hget : .get ∉ s.failing)
include hs hget

theorem exec_requiredSecret (use : SecretUse) {secret : Secret} :
    (s.exec (requiredSecret ns name use)).1 = .ok secret ↔
      name ≠ "" ∧ s.object? .secret ns name = some secret := by
  unfold requiredSecret
  by_cases hname : name = ""
  · rw [if_pos hname, MemoryStore.exec_bind_eq_ok (StoreM.isReadOnly_throw _)]
    simp [hname]
  · rw [if_neg hname, MemoryStore.exec_bind_eq_ok ((StoreM.isReadOnly_get _ _ _).mapError _),
      MemoryStore.exec_mapError, MemoryStore.exec_get, hs.get_eq, if_neg hget]
    cases s.object? .secret ns name <;> simp [Except.mapError, hname]

theorem exec_secretValue (r : SecretKeyRef) (use : SecretUse) {value : String} :
    (s.exec (secretValue ns r use)).1 = .ok value ↔ s.secretText? ns r = some value := by
  unfold secretValue MemoryStore.secretText?
  rw [MemoryStore.exec_bind_eq_ok (isReadOnly_requiredSecret _ _ _)]
  constructor
  · rintro ⟨secret, hsecret, hvalue⟩
    obtain ⟨hname, hobject⟩ := (exec_requiredSecret hs hget use).1 hsecret
    rw [if_neg hname, hobject, Option.bind_some]
    cases hkey : secret.strings.get? r.key with
    | none => simp [hkey] at hvalue
    | some found => simpa [hkey] using hvalue
  · intro hvalue
    by_cases hname : r.name = ""
    · simp [hname] at hvalue
    · rw [if_neg hname, Option.bind_eq_some_iff] at hvalue
      obtain ⟨secret, hobject, hkey⟩ := hvalue
      refine ⟨secret, (exec_requiredSecret hs hget use).2 ⟨hname, hobject⟩, ?_⟩
      rw [hkey]
      rfl

theorem exec_credentials :
    (s.exec (credentials ns g)).1 = .ok c ↔
      s.secretText? ns g.spec.adminPortal.url = some c.url ∧
        s.secretText? ns g.spec.adminPortal.accessToken = some c.accessToken := by
  obtain ⟨url, accessToken⟩ := c
  unfold credentials
  rw [MemoryStore.exec_bind_eq_ok (isReadOnly_secretValue _ _ _)]
  simp only [exec_secretValue hs hget, MemoryStore.exec_bind_eq_ok (isReadOnly_secretValue _ _ _),
    MemoryStore.exec_pure, Except.ok.injEq, AdminPortalCredentials.mk.injEq]
  constructor
  · rintro ⟨_, hurl, _, htoken, rfl, rfl⟩
    exact ⟨hurl, htoken⟩
  · rintro ⟨hurl, htoken⟩
    exact ⟨url, hurl, accessToken, htoken, rfl, rfl⟩

theorem exec_checkEnvironment :
    (s.exec (checkEnvironment ns g)).1 = .ok () ↔
      ∀ secret, g.spec.environmentSecret = some secret →
        secret ≠ "" ∧ (s.object? .secret ns secret).isSome := by
  unfold checkEnvironment
  cases g.spec.environmentSecret with
  | none => simp
  | some secret =>
      dsimp only
      rw [MemoryStore.exec_bind_eq_ok (isReadOnly_requiredSecret _ _ _)]
      simp [exec_requiredSecret hs hget, Option.isSome_iff_exists]

/-- Reading succeeds exactly if the store has all that is read. -/
theorem exec_prepare :
    (s.exec (prepare ns name g)).1 = .ok objects ↔ g.Prepared ns s objects := by
  unfold prepare Prepared
  rw [MemoryStore.exec_bind_eq_ok (isReadOnly_credentials _ _)]
  refine exists_congr fun c => ?_
  rw [MemoryStore.exec_bind_eq_ok (isReadOnly_checkEnvironment _ _), exec_credentials hs hget]
  have hbuild : (g.desired c).mapError (GatewayError.buildObjects name) = .ok objects ↔
      g.desired c = .ok objects := by
    cases g.desired c <;> simp [Except.mapError]
  simp only [MemoryStore.exec_ofExcept, hbuild]
  constructor
  · rintro ⟨⟨hurl, htoken⟩, ⟨⟩, henvironment, hobjects⟩
    exact ⟨⟨hurl, htoken, (exec_checkEnvironment hs hget).1 henvironment⟩, hobjects⟩
  · rintro ⟨⟨hurl, htoken, henvironment⟩, hobjects⟩
    exact ⟨⟨hurl, htoken⟩, (), (exec_checkEnvironment hs hget).2 henvironment, hobjects⟩

/-- Whether or not reading succeeds, the store is as it was but for the calls. -/
theorem exec_prepare_cases (g : Gateway) (ns name : String) :
    (∃ e t, s.exec (prepare ns name g) = (.error e, t) ∧ t.contents = s.contents ∧
        ∀ objects, ¬ g.Prepared ns s objects) ∨
      ∃ objects t, s.exec (prepare ns name g) = (.ok objects, t) ∧ t.contents = s.contents ∧
        t.failing = s.failing ∧ g.Prepared ns s objects := by
  have hclear : (s.exec (prepare ns name g)).2.clearCalls = s.clearCalls :=
    MemoryStore.clearCalls_run_of_isReadOnly (isReadOnly_prepare ns name g) s
  have hprepared (objects : DesiredObjects) :
      (s.exec (prepare ns name g)).1 = .ok objects ↔ g.Prepared ns s objects :=
    exec_prepare hs hget
  rcases hexec : s.exec (prepare ns name g) with ⟨e | objects, t⟩ <;>
    simp only [hexec] at hclear hprepared
  · exact .inl ⟨e, t, rfl, MemoryStore.contents_eq_of_clearCalls_eq hclear,
      fun objects h => nomatch (hprepared objects).2 h⟩
  · exact .inr ⟨objects, t, rfl, MemoryStore.contents_eq_of_clearCalls_eq hclear,
      MemoryStore.failing_eq_of_clearCalls_eq hclear, (hprepared objects).1 rfl⟩

omit hs hget

/-! ## What placing leaves to read -/

theorem Prepared.of_contents_eq (h : g.Prepared ns s objects) (hst : s.contents = t.contents) :
    g.Prepared ns t objects := by
  obtain ⟨c, hreads, hobjects⟩ := h
  have hsecret (secret : String) :
      s.object? .secret ns secret = t.object? .secret ns secret :=
    MemoryStore.object?_of_contents_eq hst .secret ns secret
  refine ⟨c, ⟨?_, ?_, ?_⟩, hobjects⟩
  · rw [← hreads.url, MemoryStore.secretText?, MemoryStore.secretText?, hsecret]
  · rw [← hreads.accessToken, MemoryStore.secretText?, MemoryStore.secretText?, hsecret]
  · intro secret hname
    rw [← hsecret]
    exact hreads.environment secret hname

/-- Neither credential is looked for in the Secret that holds the endpoint. -/
structure Distinct (g : Gateway) : Prop where
  url : g.spec.adminPortal.url.name ≠ g.endpointSecretName
  accessToken : g.spec.adminPortal.accessToken.name ≠ g.endpointSecretName

/-- A store has what another one has if it has the same Secrets but for the one with the endpoint,
and has not lost that one. -/
theorem Reads.of_secrets (h : g.Reads ns s c) (hg : g.Distinct)
    (hsecrets : ∀ name ≠ g.endpointSecretName,
      t.object? .secret ns name = s.object? .secret ns name)
    (hendpoint : (s.object? .secret ns g.endpointSecretName).isSome →
      (t.object? .secret ns g.endpointSecretName).isSome) :
    g.Reads ns t c where
  url := by
    rw [← h.url, MemoryStore.secretText?, MemoryStore.secretText?, hsecrets _ hg.url]
  accessToken := by
    rw [← h.accessToken, MemoryStore.secretText?, MemoryStore.secretText?,
      hsecrets _ hg.accessToken]
  environment := by
    intro secret hsecret
    obtain ⟨hname, hthere⟩ := h.environment secret hsecret
    refine ⟨hname, ?_⟩
    by_cases heq : secret = g.endpointSecretName
    · exact heq ▸ hendpoint (heq ▸ hthere)
    · rwa [hsecrets secret heq]

end Gateway

end ApiPlatform
