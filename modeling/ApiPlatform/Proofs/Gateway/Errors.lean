import ApiPlatform.Proofs.Gateway.Frame
/-!
# Why runs for a gateway fail

A run fails in one of two ways (`Gateway.Fails`).  Either its last call was told to fail, and the
error carries that failure; or what it read is not enough to build the objects, which is an error
of configuration.  Then it has done nothing but read, so that it fails in the same way again.
-/

namespace ApiPlatform

/-- The store error beneath an error, if there is one. -/
def GatewayError.source? : GatewayError → Option StoreError
  | .getGateway _ _ source => some source
  | .persistDefaults _ source => some source
  | .getSecret _ source => some source
  | .reconcileObject _ source => some source
  | _ => none

theorem GatewayError.causes_of_source? {e : GatewayError} {source : StoreError}
    (h : e.source? = some source) : Failure.causes e = Failure.trace source := by
  cases e <;> cases h <;> rfl

namespace MemoryStore

variable {s t u : MemoryStore} {ε α β : Type}

/-! ## Calls that pass and calls that are refused -/

/-- No call from one store to the other was told to fail. -/
structure Passes (s t : MemoryStore) : Prop where
  failing : t.failing = s.failing
  calls : ∃ calls, t.calls = s.calls ++ calls ∧ ∀ c ∈ calls, c.operation ∉ s.failing

/-- The last call from one store to the other was the first one that was told to fail, and the
error says so. -/
def Refuses (s t : MemoryStore) (e : StoreError) : Prop :=
  ∃ calls c, t.calls = s.calls ++ calls ++ [c] ∧ (∀ c' ∈ calls, c'.operation ∉ s.failing) ∧
    c.operation ∈ s.failing ∧ e = .injected c.operation

theorem Passes.refl (s : MemoryStore) : s.Passes s := ⟨rfl, [], by simp, by simp⟩

theorem Passes.trans (h : s.Passes t) (h' : t.Passes u) : s.Passes u := by
  obtain ⟨calls, ht, hcalls⟩ := h.calls
  obtain ⟨calls', hu, hcalls'⟩ := h'.calls
  rw [h.failing] at hcalls'
  refine ⟨h'.failing.trans h.failing, calls ++ calls', by rw [hu, ht, List.append_assoc], ?_⟩
  exact List.forall_mem_append.2 ⟨hcalls, hcalls'⟩

theorem Passes.refuses {e : StoreError} (h : s.Passes t) (h' : t.Refuses u e) : s.Refuses u e := by
  obtain ⟨calls, ht, hcalls⟩ := h.calls
  obtain ⟨calls', c, hu, hcalls', hc, he⟩ := h'
  rw [h.failing] at hcalls' hc
  refine ⟨calls ++ calls', c, by rw [hu, ht, List.append_assoc s.calls], ?_, hc, he⟩
  exact List.forall_mem_append.2 ⟨hcalls, hcalls'⟩

theorem passes_record {op : Operation} (hop : op ∉ s.failing) (key : StoreKey) :
    s.Passes (s.record op key) :=
  ⟨rfl, [⟨op, key⟩], rfl, by simpa using hop⟩

theorem passes_write {k : Kind} {key : StoreKey} {o : k.Object} (h : s.Passes t) :
    s.Passes (t.write k key o) :=
  ⟨h.failing, h.calls⟩

theorem refuses_record {op : Operation} (hop : op ∈ s.failing) (key : StoreKey) :
    s.Refuses (s.record op key) (.injected op) :=
  ⟨[], ⟨op, key⟩, by simp, by simp, hop, rfl⟩

/-! ## Reading -/

theorem passes_run_of_isReadOnly {p : StoreProgram α} (hp : p.IsReadOnly)
    (hget : .get ∉ s.failing) : s.Passes (s.run p).2 := by
  obtain ⟨calls, hcalls, hrun⟩ := run_of_isReadOnly hp s
  rw [hrun]
  exact ⟨rfl, calls, rfl, fun c hc => hcalls c hc ▸ hget⟩

theorem get_eq_peek {k : Kind} {ns name : String} (hget : .get ∉ s.failing) :
    s.get k ns name = (s.peek k ns name, s.record .get ⟨k, ns, name⟩) := by
  unfold get
  exact if_neg hget

/-- What is read depends on the objects only, unless reading is told to fail. -/
theorem run_congr_of_isReadOnly {p : StoreProgram α} (hp : p.IsReadOnly)
    (hobjects : s.objects = t.objects) (hs : .get ∉ s.failing) (ht : .get ∉ t.failing) :
    (s.run p).1 = (t.run p).1 := by
  induction p generalizing s t with
  | done a => rfl
  | get k ns name next ih =>
      have hpeek : s.peek k ns name = t.peek k ns name := by rw [peek, peek, hobjects]
      simp only [run]
      rw [get_eq_peek hs, get_eq_peek ht, hpeek]
      exact ih _ (hp _) hobjects hs ht
  | create k o next => exact hp.elim
  | update k o next => exact hp.elim

/-- A sequence fails where its first part does, or else where the second one finds the store as the
first one found it. -/
theorem exec_bind_eq_error {p : StoreM ε α} (hp : StoreM.IsReadOnly p) {f : α → StoreM ε β}
    {e : ε} :
    (s.exec (p >>= f)).1 = .error e ↔
      (s.exec p).1 = .error e ∨ ∃ a, (s.exec p).1 = .ok a ∧ (s.exec (f a)).1 = .error e := by
  have hclear : (s.exec p).2.clearCalls = s.clearCalls := clearCalls_run_of_isReadOnly hp s
  rw [exec_bind]
  rcases hexec : s.exec p with ⟨e' | a, t⟩
  · simp
  · rw [hexec] at hclear
    have hsame : (t.exec (f a)).1 = (s.exec (f a)).1 := (run_congr hclear (f a).run).1
    simp [hsame]

end MemoryStore

/-! ## Placing -/

/-- A run for one object either passes or ends with the call that is refused. -/
theorem WantedObject.Ran.passes_or_refuses {w : WantedObject} {key : StoreKey}
    {s t : MemoryStore} {r : Except StoreError ObjectOutcome} (h : w.Ran key s r t) :
    (∃ o, r = .ok o ∧ s.Passes t) ∨ ∃ e, r = .error e ∧ s.Refuses t e := by
  cases h with
  | getFails hget => exact .inr ⟨_, rfl, MemoryStore.refuses_record hget key⟩
  | createFails hget hcreate _ =>
      exact .inr ⟨_, rfl, (MemoryStore.passes_record hget key).refuses
        (MemoryStore.refuses_record (s := s.record .get key) hcreate key)⟩
  | updateFails _ hget hupdate _ _ =>
      exact .inr ⟨_, rfl, (MemoryStore.passes_record hget key).refuses
        (MemoryStore.refuses_record (s := s.record .get key) hupdate key)⟩
  | unchanged hget _ => exact .inl ⟨_, rfl, MemoryStore.passes_record hget key⟩
  | created hget hcreate _ =>
      exact .inl ⟨_, rfl, MemoryStore.passes_write ((MemoryStore.passes_record hget key).trans
        (MemoryStore.passes_record (s := s.record .get key) hcreate key))⟩
  | updated _ hget hupdate _ _ =>
      exact .inl ⟨_, rfl, MemoryStore.passes_write ((MemoryStore.passes_record hget key).trans
        (MemoryStore.passes_record (s := s.record .get key) hupdate key))⟩

namespace Placement

variable {p : Placement} {ps : List Placement} {key : StoreKey} {s : MemoryStore}

theorem passes_or_refuses_run (hs : s.Sound) (hkey : p.wanted.storeKey = .ok key) :
    ((s.exec p.run).1 = .ok () ∧ s.Passes (s.exec p.run).2) ∨
      ∃ source, (s.exec p.run).1 = .error (.reconcileObject p.part source) ∧
        s.Refuses (s.exec p.run).2 source := by
  have hran := (WantedObject.ran_reconcile hs hkey).passes_or_refuses
  rw [exec_run]
  rcases hexec : s.exec p.wanted.reconcile with ⟨e | o, t⟩ <;> simp only [hexec] at hran
  · obtain ⟨o, hok, -⟩ | ⟨source, herror, hrefuses⟩ := hran
    · cases hok
    · cases herror
      exact .inr ⟨_, rfl, hrefuses⟩
  · obtain ⟨_, -, hpasses⟩ | ⟨source, herror, -⟩ := hran
    · exact .inl ⟨rfl, hpasses⟩
    · cases herror

theorem passes_or_refuses_runAll (hs : s.Sound)
    (hkeys : ∀ p ∈ ps, ∃ key, p.wanted.storeKey = .ok key) :
    ((s.exec (runAll ps)).1 = .ok () ∧ s.Passes (s.exec (runAll ps)).2) ∨
      ∃ part source, (s.exec (runAll ps)).1 = .error (.reconcileObject part source) ∧
        s.Refuses (s.exec (runAll ps)).2 source := by
  induction ps generalizing s with
  | nil => exact .inl ⟨rfl, .refl s⟩
  | cons p ps ih =>
      obtain ⟨⟨key, hkey⟩, hrest⟩ := List.forall_mem_cons.1 hkeys
      have hsound : (s.exec p.run).2.Sound := hs.run _
      have hfirst := passes_or_refuses_run hs hkey
      rw [runAll, MemoryStore.exec_bind]
      rcases hexec : s.exec p.run with ⟨e | ⟨⟩, t⟩ <;> simp only [hexec] at hfirst hsound ⊢
      · obtain ⟨hok, -⟩ | ⟨source, herror, hrefuses⟩ := hfirst
        · cases hok
        · cases herror
          exact .inr ⟨_, _, rfl, hrefuses⟩
      · obtain ⟨-, hpasses⟩ | ⟨source, herror, -⟩ := hfirst
        · obtain ⟨hok, hpasses'⟩ | ⟨part, source, herror, hrefuses⟩ := ih hsound hrest
          · exact .inl ⟨hok, hpasses.trans hpasses'⟩
          · exact .inr ⟨part, source, herror, hpasses.refuses hrefuses⟩
        · cases herror

end Placement

namespace Gateway

variable {g : Gateway} {ns name : String} {s t : MemoryStore} {e : GatewayError}

/-! ## Errors while reading -/

section Reading

variable (hs : s.Sound) (hget : .get ∉ s.failing)
include hs hget

theorem isConfiguration_of_requiredSecret {use : SecretUse}
    (h : (s.exec (requiredSecret ns name use)).1 = .error e) : e.isConfiguration := by
  unfold requiredSecret at h
  by_cases hname : name = ""
  · rw [if_pos hname, MemoryStore.exec_bind_eq_error (StoreM.isReadOnly_throw _)] at h
    obtain herror | ⟨_, hok, -⟩ := h
    · cases herror
      rfl
    · cases hok
  · rw [if_neg hname, MemoryStore.exec_bind_eq_error ((StoreM.isReadOnly_get _ _ _).mapError _),
      MemoryStore.exec_mapError, MemoryStore.exec_get, hs.get_eq, if_neg hget] at h
    obtain herror | ⟨found, hok, herror⟩ := h
    · cases herror
    · cases found with
      | none =>
          cases herror
          rfl
      | some secret => cases herror

theorem isConfiguration_of_secretValue {r : SecretKeyRef} {use : SecretUse}
    (h : (s.exec (secretValue ns r use)).1 = .error e) : e.isConfiguration := by
  unfold secretValue at h
  rw [MemoryStore.exec_bind_eq_error (isReadOnly_requiredSecret _ _ _)] at h
  obtain herror | ⟨secret, -, herror⟩ := h
  · exact isConfiguration_of_requiredSecret hs hget herror
  · cases hkey : secret.strings.get? r.key with
    | none =>
        rw [hkey] at herror
        cases herror
        rfl
    | some value =>
        rw [hkey] at herror
        cases herror

theorem isConfiguration_of_credentials (h : (s.exec (credentials ns g)).1 = .error e) :
    e.isConfiguration := by
  unfold credentials at h
  rw [MemoryStore.exec_bind_eq_error (isReadOnly_secretValue _ _ _)] at h
  obtain herror | ⟨url, -, h⟩ := h
  · exact isConfiguration_of_secretValue hs hget herror
  rw [MemoryStore.exec_bind_eq_error (isReadOnly_secretValue _ _ _)] at h
  obtain herror | ⟨token, -, h⟩ := h
  · exact isConfiguration_of_secretValue hs hget herror
  · cases h

theorem isConfiguration_of_checkEnvironment (h : (s.exec (checkEnvironment ns g)).1 = .error e) :
    e.isConfiguration := by
  unfold checkEnvironment at h
  cases hsecret : g.spec.environmentSecret with
  | none =>
      rw [hsecret] at h
      cases h
  | some secret =>
      rw [hsecret] at h
      dsimp only at h
      rw [MemoryStore.exec_bind_eq_error (isReadOnly_requiredSecret _ _ _)] at h
      obtain herror | ⟨_, -, h⟩ := h
      · exact isConfiguration_of_requiredSecret hs hget herror
      · cases h

/-- If reads succeed, nothing but what was read can be wrong. -/
theorem isConfiguration_of_prepare (h : (s.exec (prepare ns name g)).1 = .error e) :
    e.isConfiguration := by
  unfold prepare at h
  rw [MemoryStore.exec_bind_eq_error (isReadOnly_credentials _ _)] at h
  obtain herror | ⟨c, -, h⟩ := h
  · exact isConfiguration_of_credentials hs hget herror
  rw [MemoryStore.exec_bind_eq_error (isReadOnly_checkEnvironment _ _)] at h
  obtain herror | ⟨_, -, h⟩ := h
  · exact isConfiguration_of_checkEnvironment hs hget herror
  · rw [MemoryStore.exec_ofExcept] at h
    cases hbuild : g.desired c with
    | error source =>
        rw [hbuild] at h
        cases h
        rfl
    | ok objects =>
        rw [hbuild] at h
        cases h

end Reading

/-! ## Errors of a run -/

/-- How a run can fail: its error, and the store that it leaves. -/
inductive Fails (ns name : String) (s : MemoryStore) : GatewayError → MemoryStore → Prop
  | refused (e : GatewayError) (source : StoreError) (t : MemoryStore) :
      e.source? = some source → s.Refuses t source → Fails ns name s e t
  | unprepared (g : Gateway) (e : GatewayError) (calls : List StoreCall) : .get ∉ s.failing →
      s.object? .gateway ns name = some g → ¬ g.spec.lacksDefaults →
      (s.exec (prepare ns name g)).1 = .error e → (∀ c ∈ calls, c.operation = .get) →
      Fails ns name s e { s with calls := s.calls ++ calls }

/-- A gateway with all its fields is prepared and placed. -/
theorem fails_converge (hs : s.Sound) (hget : .get ∉ s.failing)
    (hstored : s.object? .gateway ns name = some g) (hlacks : ¬ g.spec.lacksDefaults)
    (h : (s.exec (converge ns name g)).1 = .error e) :
    Fails ns name s e (s.exec (converge ns name g)).2 := by
  have hreads := isReadOnly_prepare ns name g
  have hpasses : s.Passes (s.exec (prepare ns name g)).2 :=
    MemoryStore.passes_run_of_isReadOnly hreads hget
  obtain ⟨calls, hcalls, hrun⟩ := MemoryStore.run_of_isReadOnly hreads s
  have hleft : (s.exec (prepare ns name g)).2 = { s with calls := s.calls ++ calls } := hrun
  have hprepared : ∀ objects, (s.exec (prepare ns name g)).1 = .ok objects ↔
      g.Prepared ns s objects := fun objects => exec_prepare hs hget
  unfold converge at h ⊢
  rw [MemoryStore.exec_bind] at h ⊢
  rcases hexec : s.exec (prepare ns name g) with ⟨e' | objects, t⟩ <;>
    simp only [hexec] at h hpasses hleft hprepared ⊢
  · cases h
    rw [hleft]
    exact .unprepared g e calls hget hstored hlacks (by rw [hexec]) hcalls
  · obtain ⟨c, -, hobjects⟩ := (hprepared objects).1 rfl
    have hsound : t.Sound := hleft ▸ hs.of_objects_eq rfl le_rfl
    have hplaced := Placement.passes_or_refuses_runAll hsound fun p hp =>
      exists_storeKey_wanted hobjects p.wanted (List.mem_map_of_mem hp)
    rw [MemoryStore.exec_bind, DesiredObjects.placeAll_eq] at h ⊢
    rcases hplacing : t.exec (Placement.runAll objects.placements) with ⟨e' | ⟨⟩, u⟩ <;>
      simp only [hplacing] at h hplaced ⊢
    · cases h
      obtain ⟨hok, -⟩ | ⟨part, source, herror, hrefuses⟩ := hplaced
      · cases hok
      · cases herror
        exact .refused _ source u rfl (hpasses.refuses hrefuses)
    · cases h

/-- Every failure is one of the two. -/
theorem fails_reconcile (hs : s.Sound) (h : (s.exec (reconcile ns name)).1 = .error e) :
    Fails ns name s e (s.exec (reconcile ns name)).2 := by
  by_cases hget : .get ∈ s.failing
  · rw [exec_reconcile_of_unread hs hget] at h ⊢
    cases h
    exact .refused _ _ _ rfl (MemoryStore.refuses_record hget _)
  have hread : s.Passes (s.record .get ⟨.gateway, ns, name⟩) := MemoryStore.passes_record hget _
  have hsound : (s.record .get ⟨.gateway, ns, name⟩).Sound := hs.record _ _
  cases hstored : s.object? .gateway ns name with
  | none =>
      rw [exec_reconcile_of_missing hs hget hstored] at h
      cases h
  | some g =>
      by_cases hlacks : g.spec.lacksDefaults
      · have hupdate := update_defaulted_of_stored hsound hstored
        rw [reconcile_eq, MemoryStore.exec_bind, MemoryStore.exec_mapError, MemoryStore.exec_get,
          hs.get_eq, if_neg hget, hstored] at h ⊢
        dsimp only [Except.mapError] at h ⊢
        rw [if_pos hlacks, MemoryStore.exec_bind, MemoryStore.exec_mapError,
          MemoryStore.exec_update, hupdate] at h ⊢
        by_cases hop : .update ∈ s.failing
        · rw [if_pos (by simpa using hop)] at h ⊢
          cases h
          exact .refused _ _ _ rfl
            (hread.refuses (MemoryStore.refuses_record (s := s.record .get _) hop _))
        · rw [if_neg (by simpa using hop)] at h
          cases h
      · rw [exec_reconcile_of_stored hs hstored hget hlacks] at h ⊢
        have hfails := fails_converge hsound hget hstored hlacks h
        generalize (MemoryStore.exec _ (converge ns name g)).2 = t at hfails ⊢
        cases hfails with
        | refused _ source t hsource hrefuses =>
            exact .refused e source t hsource (hread.refuses hrefuses)
        | unprepared g' _ calls _ hstored' hlacks' hprepare hcalls =>
            have hsame : (s.exec (prepare ns name g')).1 =
                ((s.record .get ⟨.gateway, ns, name⟩).exec (prepare ns name g')).1 :=
              MemoryStore.run_congr_of_isReadOnly (isReadOnly_prepare ns name g') rfl hget hget
            have hall : ∀ c ∈ ⟨.get, ⟨.gateway, ns, name⟩⟩ :: calls, c.operation = .get := by
              simpa using hcalls
            have hfails := Fails.unprepared g' e _ hget hstored' hlacks' (hsame.trans hprepare) hall
            rw [List.append_cons] at hfails
            exact hfails

namespace Fails

/-- An error of configuration is never a failure of the store. -/
theorem unprepared_of_isConfiguration (h : Fails ns name s e t) (he : e.isConfiguration) :
    ∃ g calls, .get ∉ s.failing ∧ s.object? .gateway ns name = some g ∧
      ¬ g.spec.lacksDefaults ∧ (s.exec (prepare ns name g)).1 = .error e ∧
      (∀ c ∈ calls, c.operation = .get) ∧ t = { s with calls := s.calls ++ calls } := by
  cases h with
  | refused e source t hsource _ => cases e <;> cases hsource <;> cases he
  | unprepared g e calls hget hstored hlacks hprepare hcalls =>
      exact ⟨g, calls, hget, hstored, hlacks, hprepare, hcalls, rfl⟩

theorem refused_of_not_isConfiguration (hs : s.Sound) (h : Fails ns name s e t)
    (he : ¬ e.isConfiguration) : ∃ source, e.source? = some source ∧ s.Refuses t source := by
  cases h with
  | refused e source t hsource hrefuses => exact ⟨source, hsource, hrefuses⟩
  | unprepared g e calls hget _ _ hprepare _ =>
      exact absurd (isConfiguration_of_prepare hs hget hprepare) he

end Fails

/-- What cannot be prepared fails in the same way in every store with the same objects that can be
read. -/
theorem reconcile_eq_error_of_prepare (ht : t.Sound)
    (hobjects : s.objects = t.objects) (hget : .get ∉ s.failing) (hget' : .get ∉ t.failing)
    (hstored : s.object? .gateway ns name = some g) (hlacks : ¬ g.spec.lacksDefaults)
    (hprepare : (s.exec (prepare ns name g)).1 = .error e) :
    (t.exec (reconcile ns name)).1 = .error e := by
  have hstored' : t.object? .gateway ns name = some g := by
    rw [← hstored, MemoryStore.object?, MemoryStore.object?, hobjects]
  have hsame : (s.exec (prepare ns name g)).1 =
      ((t.record .get ⟨.gateway, ns, name⟩).exec (prepare ns name g)).1 :=
    MemoryStore.run_congr_of_isReadOnly (isReadOnly_prepare ns name g) hobjects hget hget'
  rw [exec_reconcile_of_stored ht hstored' hget' hlacks, converge, MemoryStore.exec_bind]
  rw [hprepare] at hsame
  rcases hexec : (t.record .get ⟨.gateway, ns, name⟩).exec (prepare ns name g) with ⟨e' | a, u⟩ <;>
    rw [hexec] at hsame <;> cases hsame
  rfl

/-- A run that fails has an error of configuration, or else its last call was the first one that
was told to fail, and this failure is what lies beneath the error.  With an error of configuration
the run has issued nothing but reads, and has left objects and version number as they were; and a
further run that no call fails of ends with the same error. -/
theorem reconcile_error (hs : s.Reachable)
    (he : (s.exec (reconcile ns name)).1 = .error e) :
    let t := (s.exec (reconcile ns name)).2
    (¬ e.isConfiguration → ∃ calls c, t.calls = s.calls ++ calls ++ [c] ∧
        (∀ c' ∈ calls, c'.operation ∉ s.failing) ∧ c.operation ∈ s.failing ∧
        e.source? = some (.injected c.operation) ∧
        Failure.causes e = Failure.trace (StoreError.injected c.operation)) ∧
      (e.isConfiguration →
        (∃ calls, (∀ c ∈ calls, c.operation = .get) ∧
          t = { s with calls := s.calls ++ calls }) ∧
        ((t.refusing []).exec (reconcile ns name)).1 = .error e) := by
  intro t
  have hsound := hs.sound
  have hfails : Fails ns name s e t := fails_reconcile hsound he
  constructor
  · intro hstore
    obtain ⟨source, hsource, calls, c, ht, hcalls, hc, rfl⟩ :=
      hfails.refused_of_not_isConfiguration hsound hstore
    exact ⟨calls, c, ht, hcalls, hc, hsource, GatewayError.causes_of_source? hsource⟩
  · intro hconfiguration
    obtain ⟨g, calls, hget, hstored, hlacks, hprepare, hcalls, ht⟩ :=
      hfails.unprepared_of_isConfiguration hconfiguration
    refine ⟨⟨calls, hcalls, ht⟩, ?_⟩
    have hobjects : s.objects = (t.refusing []).objects := by rw [ht]; rfl
    have hsound' : (t.refusing []).Sound := by
      rw [ht]
      exact hsound.of_objects_eq rfl le_rfl
    exact reconcile_eq_error_of_prepare hsound' hobjects hget (by simp) hstored hlacks
      hprepare

/-- The store with the portal, and a gateway that looks for its token under another key. -/
def tokenlessStore : MemoryStore :=
  (portalStore.insert .gateway
    { portalGateway with
      spec := { portalGateway.spec with
        adminPortal := { url := ⟨"portal", "url"⟩, accessToken := ⟨"portal", "key"⟩ } } }).2.fail
    .update

theorem reconcile_tokenlessStore :
    (tokenlessStore.exec (reconcile "apis" "edge")).1 =
      .error (.missingSecretKey "key" "portal") := rfl

/-- A key that is not there is an error of configuration; a creation that is refused is not. -/
theorem error_of_tokenlessStore_and_refusingStore :
    (((tokenlessStore.exec (reconcile "apis" "edge")).2.refusing []).exec
        (reconcile "apis" "edge")).1 = .error (.missingSecretKey "key" "portal") ∧
      ∃ calls c, (refusingStore.exec (reconcile "apis" "edge")).2.calls =
          refusingStore.calls ++ calls ++ [c] ∧
        (∀ c' ∈ calls, c'.operation ∉ refusingStore.failing) ∧
        c.operation ∈ refusingStore.failing ∧
        (GatewayError.reconcileObject .deployment (.injected .create)).source? =
          some (.injected c.operation) ∧
        Failure.causes (GatewayError.reconcileObject .deployment (.injected .create)) =
          Failure.trace (StoreError.injected c.operation) :=
  ⟨((reconcile_error ((reachable_portalStore.insert _ _).fail _) reconcile_tokenlessStore).2
      rfl).2,
    (reconcile_error reachable_refusingStore reconcile_refusingStore).1 (by decide)⟩

end Gateway

end ApiPlatform
