import ApiPlatform.Proofs.Transform.Entries
/-!
# What high availability makes of a bundle

The parts of a bundle may be declared to several ends at once: the connection may be a database
object, hold the address of an endpoint, or not be there at all.  `Effect` says what each object and
parameter comes to in every case, and with that the bundle is determined (`Effect.eq_runSteps`).
-/

namespace ApiPlatform

open ApiPlatform.Bundle (Step connectionKey fate fate_append revise revise_append runSteps)
open Catalog (HighAvailabilityOptions externalConnection)

namespace SortedMap

variable {κ α : Type} [Ord κ] [Std.TransOrd κ] [Std.LawfulEqOrd κ]

/-- A map with keys out of an enumeration is listed along the enumeration. -/
theorem entries_eq_filterMap {all : List κ} (hsorted : all.Pairwise (compare · · = .lt))
    (hall : ∀ k, k ∈ all) (m : SortedMap κ α) :
    m.entries = all.filterMap fun k => (m.get? k).map (k, ·) := by
  have hpairs : (all.filterMap fun k => (m.get? k).map (k, ·)).Pairwise
      (fun a b => compare a.1 b.1 = .lt) := by
    refine hsorted.filterMap _ fun k k' hlt e he e' he' => ?_
    obtain ⟨v, -, rfl⟩ := Option.map_eq_some_iff.1 he
    obtain ⟨v', -, rfl⟩ := Option.map_eq_some_iff.1 he'
    exact hlt
  have hsame : m = ⟨_, hpairs⟩ := by
    refine ext_get? fun k => Option.ext fun v => ?_
    have hmem := lookupIn_eq_some_iff (k := k) (v := v) hpairs
    rw [get?, get?, hmem, List.mem_filterMap]
    simp only [Option.map_eq_some_iff, Prod.mk.injEq]
    constructor
    · intro h
      exact ⟨k, hall k, v, h, rfl, rfl⟩
    · rintro ⟨k', -, v', h, rfl, rfl⟩
      exact h
  exact congrArg entries hsame

end SortedMap

namespace Bundle

variable {steps : List Step} {key : ObjectKey}

/-- Under an identity that no step takes away or puts in, there is what the steps make of it. -/
theorem fate_eq_map_revise (hjoining : ∀ s ∈ steps, ∀ b, s.joiningKeys b = [])
    (hleaving : key ∉ steps.flatMap Step.leavingKeys) (r? : Option Resource) :
    fate key steps r? = r?.map (revise key steps) := by
  induction steps generalizing r? with
  | nil => exact Option.map_id'.symm
  | cons s steps ih =>
      obtain ⟨hs, hrest⟩ := List.forall_mem_cons.1 hjoining
      rw [List.flatMap_cons, List.mem_append, not_or] at hleaving
      have hstep : s.fate key r? = r?.map (s.revise key) := by
        cases s with
        | put r => exact absurd rfl (Step.ne_put hs r)
        | remove k =>
            have hne : k ≠ key := fun heq => hleaving.1 (List.mem_singleton.2 heq.symm)
            exact (if_neg hne).trans Option.map_id'.symm
        | change f => rfl
        | removeParameter name => exact Option.map_id'.symm
        | setDefault name value => exact Option.map_id'.symm
      have hcons : fate key (s :: steps) r? = fate key steps (s.fate key r?) := rfl
      rw [hcons, hstep, ih hrest hleaving.2, Option.map_map]
      rfl

end Bundle

namespace HighAvailability

variable {o : HighAvailabilityOptions} {c : Capabilities} {b b' : Bundle}
variable {key : ObjectKey} {name field : String} {s s' : Secret}

/-! ## Addresses -/

/-- The entries of Secrets that are declared to hold the address of an endpoint. -/
def fieldsOf (c : Capabilities) (e : ExternalEndpoint) : List EndpointField :=
  (c.externalEndpoints.get? e).getD []

/-- The address that belongs into an entry: if several endpoints declare it, that of the last. -/
def address? (o : HighAvailabilityOptions) (c : Capabilities) (f : EndpointField) :
    Option String :=
  (ExternalEndpoint.all.reverse.find? (f ∈ fieldsOf c ·)).map o.url

/-- What is written into entries, first to last. -/
def addresses (o : HighAvailabilityOptions) (c : Capabilities) : List (EndpointField × String) :=
  c.externalEndpoints.entries.flatMap fun e => e.2.map (·, o.url e.1)

/-- Writes an address into its entry. -/
def writing (w : EndpointField × String) : Step :=
  .changeAt (.template .secret w.1.secret) (writeEntry w.1.field w.2)

theorem addressSteps_eq : addressSteps o c = (addresses o c).map writing := by
  unfold addressSteps addresses
  rw [List.map_flatMap]
  refine List.flatMap_congr fun e _ => ?_
  rw [List.map_map]
  rfl

theorem addresses_eq :
    addresses o c = ExternalEndpoint.all.flatMap fun e => (fieldsOf c e).map (·, o.url e) := by
  have hlisted : ∀ es : List ExternalEndpoint,
      (es.filterMap fun e => (c.externalEndpoints.get? e).map (e, ·)).flatMap
          (fun e => e.2.map (·, o.url e.1)) =
        es.flatMap fun e => (fieldsOf c e).map (·, o.url e) := by
    intro es
    induction es with
    | nil => rfl
    | cons e es ih =>
        unfold fieldsOf at ih ⊢
        rw [List.filterMap_cons, List.flatMap_cons]
        cases c.externalEndpoints.get? e with
        | none => exact ih
        | some fields => exact congrArg (fields.map (·, o.url e) ++ ·) ih
  have hsorted : ExternalEndpoint.all.Pairwise (compare · · = .lt) := by decide
  have hall : ∀ e, e ∈ ExternalEndpoint.all := fun e => by cases e <;> decide
  unfold addresses
  rw [SortedMap.entries_eq_filterMap hsorted hall]
  exact hlisted _

theorem lookup_map_pair (fields : List EndpointField) (url : String) (f : EndpointField) :
    (fields.map (·, url)).lookup f = if f ∈ fields then some url else none := by
  induction fields with
  | nil => rfl
  | cons g fields ih =>
      rw [List.map_cons, List.lookup_cons, ih]
      by_cases hg : f = g
      · simp [hg]
      · simp [hg, beq_eq_false_iff_ne.2 hg]

/-- What is written last into an entry is the address that belongs there. -/
theorem lookup_addresses (f : EndpointField) :
    (addresses o c).reverse.lookup f = address? o c f := by
  rw [addresses_eq, address?]
  generalize ExternalEndpoint.all = es
  induction es with
  | nil => rfl
  | cons e es ih =>
      rw [List.flatMap_cons, List.reverse_append, List.lookup_append, ih, ← List.map_reverse,
        lookup_map_pair, List.reverse_cons, List.find?_append, Option.map_or]
      by_cases he : f ∈ fieldsOf c e <;> simp [he]

/-- The Secret `s'` is `s` with new texts over some of its own. -/
structure Written (new : String → Option String) (s s' : Secret) : Prop where
  rest : { s' with stringData := s.stringData } = s
  texts : Overwritten new s.stringData s'.stringData

namespace Written

variable {new new' : String → Option String} {s'' : Secret}

theorem trans (h : Written new s s') (h' : Written new' s' s'') :
    Written (fun k => (new' k).or (new k)) s s'' where
  rest := (congrArg (fun t : Secret => { t with stringData := s.stringData }) h'.rest).trans h.rest
  texts := h.texts.trans h'.texts

theorem unique (h : Written new s s') (h' : Written new s s'') : s' = s'' :=
  calc
    s' = { s with stringData := s'.stringData } :=
      congrArg (fun t : Secret => { t with stringData := s'.stringData }) h.rest
    _ = { s with stringData := s''.stringData } := by rw [h.texts.unique h'.texts]
    _ = s'' := (congrArg (fun t : Secret => { t with stringData := s''.stringData }) h'.rest).symm

end Written

theorem writeEntry_of_kind_ne {r : Resource} (url : String) (hr : r.kind ≠ .secret) :
    writeEntry field url r = r := by
  cases r with
  | secret s => exact absurd rfl hr
  | _ => rfl

theorem revise_addressSteps_of_kind_ne {r : Resource} (hr : r.kind ≠ .secret) :
    revise key (addressSteps o c) r = r := by
  refine Bundle.revise_eq_self fun s hs => ?_
  obtain ⟨key', field, url, rfl⟩ := addressStep_cases hs
  by_cases hkey : key = key'
  · exact (if_pos hkey).trans (writeEntry_of_kind_ne url hr)
  · exact if_neg hkey

theorem revise_addressSteps_of_ne {r : Resource} (hkey : ∀ name, key ≠ .template .secret name) :
    revise key (addressSteps o c) r = r := by
  refine Bundle.revise_eq_self fun s hs => ?_
  rw [addressSteps_eq] at hs
  obtain ⟨w, -, rfl⟩ := List.mem_map.1 hs
  exact if_neg (hkey _)

/-- An address is written into the Secret of its entry, and into no other. -/
theorem exists_written (name : String) (w : EndpointField × String) (s : Secret) :
    ∃ s', (writing w).revise (.template .secret name) (.secret s) = .secret s' ∧
      Written (fun field => if name = w.1.secret ∧ field = w.1.field then some w.2 else none)
        s s' := by
  by_cases hname : name = w.1.secret
  · subst hname
    refine ⟨_, if_pos rfl, rfl, ?_⟩
    simpa using Overwritten.insert s.stringData w.1.field w.2
  · refine ⟨s, if_neg fun h => hname (congrArg ObjectKey.name h), rfl, ?_⟩
    simpa [hname] using Overwritten.refl s.stringData

theorem lookup_reverse_cons (w : EndpointField × String) (ws : List (EndpointField × String))
    (name field : String) : (w :: ws).reverse.lookup ⟨name, field⟩ =
      (ws.reverse.lookup ⟨name, field⟩).or
        (if name = w.1.secret ∧ field = w.1.field then some w.2 else none) := by
  obtain ⟨entry, url⟩ := w
  rw [List.reverse_cons, List.lookup_append]
  by_cases hentry : (⟨name, field⟩ : EndpointField) = entry
  · subst hentry
    simp
  · have hne : ¬ (name = entry.secret ∧ field = entry.field) := fun ⟨hname, hfield⟩ =>
      hentry (by rw [hname, hfield])
    rw [List.lookup_cons, beq_eq_false_iff_ne.2 hentry, if_neg hne]
    rfl

/-- Writing from first to last leaves in each entry what was written into it last. -/
theorem exists_writtenAll (name : String) (ws : List (EndpointField × String)) (s : Secret) :
    ∃ s', revise (.template .secret name) (ws.map writing) (.secret s) = .secret s' ∧
      Written (fun field => ws.reverse.lookup ⟨name, field⟩) s s' := by
  induction ws generalizing s with
  | nil => exact ⟨s, rfl, rfl, .refl _⟩
  | cons w ws ih =>
      obtain ⟨s₁, hfirst, hwritten₁⟩ := exists_written name w s
      obtain ⟨s', hrevise, hwritten⟩ := ih s₁
      simp only [lookup_reverse_cons]
      refine ⟨s', ?_, hwritten₁.trans hwritten⟩
      rw [← hrevise, ← hfirst]
      rfl

theorem exists_addressed (name : String) (s : Secret) :
    ∃ s', revise (.template .secret name) (addressSteps o c) (.secret s) = .secret s' ∧
      Written (fun field => address? o c ⟨name, field⟩) s s' := by
  simp only [← lookup_addresses]
  rw [addressSteps_eq]
  exact exists_writtenAll name (addresses o c) s

/-! ## Objects that stay -/

/-- What becomes of an object that stays under its identity. -/
inductive Settled (o : HighAvailabilityOptions) (c : Capabilities) (key : ObjectKey) :
    Resource → Resource → Prop
  /-- A Deployment that states nothing of its pods gets an empty statement to hold the count. -/
  | deployment {d : Deployment}
      (hscaled : ¬ c.singletonWorkloads.contains (Resource.deployment d).name) :
      Settled o c key (.deployment d)
        (.deployment { d with spec := some { d.spec.getD {} with replicas := some o.replicas } })
  | deploymentConfig {d : DeploymentConfig}
      (hscaled : ¬ c.singletonWorkloads.contains (Resource.deploymentConfig d).name) :
      Settled o c key (.deploymentConfig d)
        (.deploymentConfig { d with spec := { d.spec with replicas := o.replicas } })
  | singleton {r : Resource} (hworkload : r.isWorkload)
      (hsingle : c.singletonWorkloads.contains r.name) : Settled o c key r r
  | secret {name : String} {s s' : Secret} (hkey : key = .template .secret name)
      (hwritten : Written (fun field => address? o c ⟨name, field⟩) s s') :
      Settled o c key (.secret s) (.secret s')
  /-- Endpoints are declared by names alone, which tell no Secrets in namespaces. -/
  | namespacedSecret {s : Secret} (hkey : ∀ name, key ≠ .template .secret name) :
      Settled o c key (.secret s) (.secret s)
  | other {r : Resource} (hworkload : ¬ r.isWorkload) (hsecret : r.kind ≠ .secret) :
      Settled o c key r r

theorem revise_laterSteps (key : ObjectKey) (r : Resource) :
    revise key (laterSteps o c) r = revise key (addressSteps o c) (scale o.replicas c r) := by
  have hparameters : revise key (c.externalDatabaseParameters.keys.map .removeParameter) r = r := by
    refine Bundle.revise_eq_self fun s hs => ?_
    obtain ⟨name, -, rfl⟩ := List.mem_map.1 hs
    rfl
  rw [laterSteps, revise_append, hparameters]
  rfl

theorem revise_laterSteps_of_isWorkload {r : Resource} (hr : r.isWorkload) :
    revise key (laterSteps o c) r = scale o.replicas c r := by
  have hkind : (scale o.replicas c r).kind ≠ .secret := by
    rw [(confined_scale o.replicas c).kind key r]
    exact Resource.kind_ne_of_isWorkload hr Bool.false_ne_true
  rw [revise_laterSteps, revise_addressSteps_of_kind_ne hkind]

theorem revise_laterSteps_of_not_isWorkload {r : Resource} (hr : ¬ r.isWorkload) :
    revise key (laterSteps o c) r = revise key (addressSteps o c) r := by
  have hscale : scale o.replicas c r = r := if_neg fun h => hr h.1
  rw [revise_laterSteps, hscale]

theorem revise_laterSteps_secret (s : Secret) :
    revise key (laterSteps o c) (.secret s) = revise key (addressSteps o c) (.secret s) :=
  revise_laterSteps_of_not_isWorkload Bool.false_ne_true

theorem settled_revise (o : HighAvailabilityOptions) (c : Capabilities) (key : ObjectKey)
    (r : Resource) : Settled o c key r (revise key (laterSteps o c) r) := by
  by_cases hworkload : r.isWorkload
  · rw [revise_laterSteps_of_isWorkload hworkload]
    by_cases hsingle : c.singletonWorkloads.contains r.name
    · have hscale : scale o.replicas c r = r := if_neg fun h => h.2 hsingle
      rw [hscale]
      exact .singleton hworkload hsingle
    · have hscale : scale o.replicas c r = r.withReplicas o.replicas :=
        if_pos ⟨hworkload, hsingle⟩
      rw [hscale]
      cases r with
      | deployment d => exact .deployment hsingle
      | deploymentConfig d => exact .deploymentConfig hsingle
      | _ => cases hworkload
  rw [revise_laterSteps_of_not_isWorkload hworkload]
  by_cases hsecret : r.kind = .secret
  · obtain ⟨s, hs⟩ := Resource.exists_ofKind_eq hsecret
    obtain rfl := Option.some.inj hs
    by_cases hkey : ∃ name, key = .template .secret name
    · obtain ⟨name, rfl⟩ := hkey
      obtain ⟨s', hrevise, hwritten⟩ := exists_addressed (o := o) (c := c) name s
      rw [hrevise]
      exact .secret rfl hwritten
    · rw [revise_addressSteps_of_ne (not_exists.1 hkey)]
      exact .namespacedSecret (not_exists.1 hkey)
  · rw [revise_addressSteps_of_kind_ne hsecret]
    exact .other hworkload hsecret

theorem Settled.eq_revise {r r' : Resource} (h : Settled o c key r r') :
    r' = revise key (laterSteps o c) r := by
  cases h with
  | deployment hscaled =>
      rw [revise_laterSteps_of_isWorkload rfl]
      exact (if_pos ⟨rfl, hscaled⟩).symm
  | deploymentConfig hscaled =>
      rw [revise_laterSteps_of_isWorkload rfl]
      exact (if_pos ⟨rfl, hscaled⟩).symm
  | singleton hworkload hsingle =>
      rw [revise_laterSteps_of_isWorkload hworkload]
      exact (if_neg fun h => h.2 hsingle).symm
  | secret hkey hwritten =>
      subst hkey
      obtain ⟨s', hrevise, hother⟩ := exists_addressed (o := o) (c := c) _ _
      rw [revise_laterSteps_secret, hrevise, hwritten.unique hother]
  | namespacedSecret hkey =>
      rw [revise_laterSteps_secret, revise_addressSteps_of_ne hkey]
  | other hworkload hsecret =>
      rw [revise_laterSteps_of_not_isWorkload hworkload, revise_addressSteps_of_kind_ne hsecret]

/-! ## The bundle as a whole -/

/-- Whether the Secret with the connection of the system database is replaced. -/
def ReplacesConnection (c : Capabilities) : Prop :=
  c.connectionSecrets.contains Catalog.databaseSecret

instance (c : Capabilities) : Decidable (ReplacesConnection c) :=
  inferInstanceAs (Decidable (c.connectionSecrets.contains Catalog.databaseSecret = true))

/-- The bundle `b'` is `b` with its databases moved out and its workloads scaled. -/
structure Effect (o : HighAvailabilityOptions) (b b' : Bundle) : Prop where
  capabilities : b'.capabilities = b.capabilities
  parameters : b'.parameters.entries = b.parameters.entries.filter
    (·.1 ∉ b.capabilities.externalDatabaseParameters.keys)
  /-- The databases are gone, the others are in their order, and only a connection that is not
  among these comes in behind them. -/
  keys : b'.objects.keys =
    b.objects.keys.filter (· ∉ b.capabilities.externalDatabaseObjects.keys) ++
      if ReplacesConnection b.capabilities ∧ (connectionKey ∉ b.objects.keys ∨
        connectionKey ∈ b.capabilities.externalDatabaseObjects.keys) then [connectionKey] else []
  /-- A replaced connection holds the address of the database and what is declared on top. -/
  connection : ReplacesConnection b.capabilities → ∃ r,
    Settled o b.capabilities connectionKey (externalConnection o) r ∧
      b'.object? connectionKey = some r
  staying : ∀ key r, b.object? key = some r → ¬ b.Hosts key →
    (ReplacesConnection b.capabilities → key ≠ connectionKey) →
    ∃ r', Settled o b.capabilities key r r' ∧ b'.object? key = some r'

theorem replacements_eq_ite : replacements o c =
    if ReplacesConnection c then [externalConnection o] else [] := by
  by_cases hc : ReplacesConnection c
  · rw [if_pos hc]
    exact List.filter_cons_of_pos (decide_eq_true ⟨rfl, hc⟩)
  · rw [if_neg hc]
    exact List.filter_cons_of_neg fun h => hc (of_decide_eq_true h).2

theorem fate_removals (key : ObjectKey) (keys : List ObjectKey) (r? : Option Resource) :
    fate key (keys.map .remove) r? = if key ∈ keys then none else r? := by
  induction keys generalizing r? with
  | nil => rfl
  | cons k keys ih =>
      have hcons : fate key ((k :: keys).map .remove) r? =
          fate key (keys.map .remove) (if k = key then none else r?) := rfl
      rw [hcons, ih]
      by_cases hk : k = key
      · simp [hk]
      · simp [hk, Ne.symm hk]

/-- The connection is put in new where it is replaced, the databases leave, and what is then there
is settled. -/
theorem fate_steps (key : ObjectKey) (r? : Option Resource) :
    fate key (steps o c) r? =
      (if ReplacesConnection c ∧ key = connectionKey then some (externalConnection o)
        else if key ∈ c.externalDatabaseObjects.keys then none else r?).map
      (revise key (laterSteps o c)) := by
  have hlater : ∀ r? : Option Resource,
      fate key (laterSteps o c) r? = r?.map (revise key (laterSteps o c)) := by
    refine Bundle.fate_eq_map_revise joiningKeys_laterStep ?_
    rw [leavingKeys_laterSteps]
    exact List.not_mem_nil
  have hput : ∀ r? : Option Resource, fate key ((replacements o c).map .put) r? =
      if ReplacesConnection c ∧ key = connectionKey then some (externalConnection o) else r? := by
    intro r?
    rw [replacements_eq_ite]
    by_cases hc : ReplacesConnection c
    · have hone : fate key [.put (externalConnection o)] r? =
          if connectionKey = key then some (externalConnection o) else r? := rfl
      rw [if_pos hc, List.map_singleton, hone]
      simp [hc, eq_comm]
    · rw [if_neg hc, if_neg fun h => hc h.1]
      rfl
  rw [steps_eq, fate_append, fate_append, hlater, hput, fate_removals]

theorem effect_runSteps (o : HighAvailabilityOptions) (b : Bundle) :
    Effect o b (runSteps (steps o b.capabilities) b) where
  capabilities := Bundle.capabilities_runSteps _ b
  parameters := by
    rw [Bundle.parameters_runSteps, leavingNames_steps]
    intro s hs name value
    rcases step_cases hs with ⟨key, -, rfl⟩ | ⟨r, -, rfl⟩ | ⟨name, rfl⟩ | rfl | ⟨f, rfl, -⟩ <;>
      exact nofun
  keys := keys_objects_steps o b
  connection hc := by
    refine ⟨_, settled_revise o b.capabilities connectionKey _, ?_⟩
    rw [Bundle.object?_runSteps, fate_steps, if_pos ⟨hc, rfl⟩]
    rfl
  staying key r hr hhosts hkey := by
    refine ⟨_, settled_revise o b.capabilities key r, ?_⟩
    have hstays : key ∉ b.capabilities.externalDatabaseObjects.keys := hhosts
    rw [Bundle.object?_runSteps, fate_steps, if_neg fun h => hkey h.1 h.2, if_neg hstays, hr]
    rfl

/-- What is found in the end is told for every identity. -/
theorem Effect.object? (h : Effect o b b') (key : ObjectKey) :
    b'.object? key = fate key (steps o b.capabilities) (b.object? key) := by
  rw [fate_steps]
  by_cases hconnection : ReplacesConnection b.capabilities ∧ key = connectionKey
  · obtain ⟨hc, rfl⟩ := hconnection
    obtain ⟨r, hr, hfound⟩ := h.connection hc
    rw [if_pos ⟨hc, rfl⟩, hfound, hr.eq_revise]
    rfl
  rw [if_neg hconnection]
  have habsent : key ∉ b.objects.keys ∨ b.Hosts key → b'.object? key = none := by
    intro hkey
    rw [Bundle.object?, OrderedMap.get?_eq_none_iff, h.keys, List.mem_append, not_or]
    refine ⟨fun hmem => ?_, fun hmem => ?_⟩
    · obtain ⟨hin, hhosts⟩ := List.mem_filter.1 hmem
      have hstays : key ∉ b.capabilities.externalDatabaseObjects.keys := of_decide_eq_true hhosts
      exact hkey.elim (· hin) hstays
    · split at hmem
      · next hc => exact hconnection ⟨hc.1, List.mem_singleton.1 hmem⟩
      · cases hmem
  by_cases hhosts : key ∈ b.capabilities.externalDatabaseObjects.keys
  · rw [if_pos hhosts]
    exact habsent (.inr hhosts)
  rw [if_neg hhosts]
  cases hr : b.object? key with
  | none => exact habsent (.inl (OrderedMap.get?_eq_none_iff.1 hr))
  | some r =>
      obtain ⟨r', hr', hfound⟩ := h.staying key r hr hhosts fun hc heq => hconnection ⟨hc, heq⟩
      rw [hfound, hr'.eq_revise]
      rfl

theorem Effect.eq_runSteps (hb : b.Indexed) (h : Effect o b b') :
    b' = runSteps (steps o b.capabilities) b := by
  have hrun := effect_runSteps o b
  have hobjects : b'.objects = (runSteps (steps o b.capabilities) b).objects :=
    OrderedMap.ext_get? (hb.runSteps keepsKeys_steps).objects.distinct
      (h.keys.trans hrun.keys.symm) fun key => (h.object? key).trans (hrun.object? key).symm
  exact Bundle.ext_entries (h.parameters.trans hrun.parameters.symm)
    (congrArg OrderedMap.entries hobjects) (h.capabilities.trans hrun.capabilities.symm)

/-- High availability never fails.  What it makes of a bundle is told by the declarations, and no
other bundle fits them. -/
theorem run_moves_databases (o : HighAvailabilityOptions) (b : Bundle) :
    ∃ b', (transform o).run b = .ok b' ∧ Effect o b b' ∧
      (b.Indexed → ∀ b'', Effect o b b'' → b'' = b') :=
  ⟨runSteps (steps o b.capabilities) b, run_eq o b, effect_runSteps o b,
    fun hb _ h => h.eq_runSteps hb⟩

end HighAvailability

end ApiPlatform
