import ApiPlatform.Proofs.Gateway.Convergence
import ApiPlatform.Proofs.Reconcile.Stages
import ApiPlatform.Proofs.Store.Writes
import Mathlib.Data.List.Forall2
/-!
# What a run for a gateway writes

A run writes nothing, or the defaults of its gateway, or objects of the gateway in their order
(`Gateway.Course`).  A failure at one of the objects leaves the earlier ones in place and everything
else as it was.
-/

namespace ApiPlatform

variable {key : StoreKey} {s : MemoryStore}

theorem MemoryStore.writtenKey_sublist {k : Kind} {o : k.Object} (hkey : k.storeKey o = .ok key)
    (answer : Except StoreError k.Object) : (writtenKey o answer).Sublist [key] := by
  unfold writtenKey
  rw [hkey]
  cases answer with
  | error e => exact List.nil_sublist _
  | ok live => exact List.Sublist.refl _

/-- A run for one object writes under its key or not at all. -/
theorem WantedObject.execWrites_reconcile {w : WantedObject} (hs : s.Sound)
    (hkey : w.storeKey = .ok key) : (s.execWrites w.reconcile).Sublist [key] := by
  obtain ⟨ns, hns, rfl⟩ := Kind.storeKey_cases hkey
  unfold MemoryStore.execWrites
  rw [run_reconcile hns, MemoryStore.writes, hs.get_eq]
  by_cases hget : .get ∈ s.failing
  · rw [if_pos hget]
    exact List.nil_sublist _
  rw [if_neg hget]
  cases hlive : s.object? w.kind.kind ns (w.kind.kind.objectName w.object) with
  | none =>
      simp only [looked, creating, MemoryStore.writes, List.append_nil]
      exact MemoryStore.writtenKey_sublist hkey _
  | some live =>
      simp only [looked]
      split_ifs
      · exact List.nil_sublist _
      · -- What is updated is the object as it was read, and that has the same key.
        simp only [updating, MemoryStore.writes, List.append_nil]
        exact MemoryStore.writtenKey_sublist
          (storeKey_copyOnto _ _ (storeKey_of_live? hs hkey hlive)) _

namespace Placement

variable {p : Placement} {ps : List Placement} {keys : List StoreKey}

theorem execWrites_run (hs : s.Sound) (hkey : p.wanted.storeKey = .ok key) :
    (s.execWrites p.run).Sublist [key] := by
  have hwrites : s.execWrites p.run = s.execWrites p.wanted.reconcile := by
    unfold run Gateway.place
    rw [MemoryStore.execWrites_bind, MemoryStore.execWrites_mapError]
    split <;> exact List.append_nil _
  exact hwrites ▸ WantedObject.execWrites_reconcile hs hkey

/-- Objects are written in the order in which they are placed. -/
theorem execWrites_runAll (hs : s.Sound)
    (hkeys : List.Forall₂ (fun p key => p.wanted.storeKey = .ok key) ps keys) :
    (s.execWrites (runAll ps)).Sublist keys := by
  induction hkeys generalizing s with
  | nil => exact List.nil_sublist _
  | @cons p key ps keys hkey _ ih =>
      have hfirst := execWrites_run hs hkey
      have hsound : (s.exec p.run).2.Sound := hs.run _
      rw [runAll, MemoryStore.execWrites_bind]
      rcases hexec : s.exec p.run with ⟨e | ⟨⟩, t⟩
      · exact hfirst.append (List.nil_sublist keys)
      · rw [hexec] at hsound
        exact hfirst.append (ih hsound)

end Placement

/-- The object of a gateway at which a run failed. -/
def GatewayError.failedPart? : GatewayError → Option GatewayPart
  | .reconcileObject part _ => some part
  | _ => none

namespace Gateway

variable {g : Gateway} {c : AdminPortalCredentials} {objects : DesiredObjects} {ns name : String}

/-- The keys of the objects of a gateway, in the order in which they are placed. -/
def objectKeys (g : Gateway) (ns : String) : List StoreKey :=
  [⟨.secret, ns, g.endpointSecretName⟩, ⟨.deployment, ns, g.workloadName⟩,
    ⟨.service, ns, g.workloadName⟩, ⟨.ingress, ns, g.workloadName⟩]

theorem storeKeys_placements (h : g.desired c = .ok objects)
    (hns : g.metadata.namespace = some ns) :
    ∃ keys, List.Forall₂ (fun p key => p.wanted.storeKey = .ok key) objects.placements keys ∧
      keys.Sublist (g.objectKeys ns) := by
  obtain ⟨ns', endpoint, replicas, owner, hns', rfl⟩ := desired_cases h
  rw [hns, Option.some_inj] at hns'
  subst hns'
  cases hhost : g.spec.exposedHostname with
  | none =>
      refine ⟨(g.objectKeys ns).take 3, ?_, List.take_sublist _ _⟩
      exact .cons rfl (.cons rfl (.cons rfl .nil))
  | some host =>
      refine ⟨g.objectKeys ns, ?_, List.Sublist.refl _⟩
      exact .cons rfl (.cons rfl (.cons rfl (.cons rfl .nil)))

/-! ## Failures while reading -/

/-- The failure is not one at an object of the gateway. -/
def BeforePlacing (e : GatewayError) : Prop := e.failedPart? = none

theorem failsIn_requiredSecret (ns name : String) (use : SecretUse) :
    StoreM.FailsIn BeforePlacing (requiredSecret ns name use) := by
  unfold requiredSecret
  split_ifs
  · exact StoreM.failsIn_throw rfl
  · have hget : StoreM.FailsIn BeforePlacing
        ((StoreM.get .secret ns name).mapError (GatewayError.getSecret name)) :=
      StoreM.failsIn_mapError _ fun _ => rfl
    refine hget.bind fun found => ?_
    cases found with
    | none => exact StoreM.failsIn_throw rfl
    | some secret => exact StoreM.failsIn_pure secret

theorem failsIn_secretValue (ns : String) (r : SecretKeyRef) (use : SecretUse) :
    StoreM.FailsIn BeforePlacing (secretValue ns r use) := by
  refine (failsIn_requiredSecret ns r.name use).bind fun secret => ?_
  cases secret.strings.get? r.key with
  | none => exact StoreM.failsIn_throw rfl
  | some value => exact StoreM.failsIn_pure value

theorem failsIn_checkEnvironment (ns : String) (g : Gateway) :
    StoreM.FailsIn BeforePlacing (checkEnvironment ns g) := by
  unfold checkEnvironment
  cases g.spec.environmentSecret with
  | none => exact StoreM.failsIn_pure ()
  | some secret =>
      exact (failsIn_requiredSecret _ _ _).bind fun _ => StoreM.failsIn_pure ()

theorem failsIn_prepare (ns name : String) (g : Gateway) :
    StoreM.FailsIn BeforePlacing (prepare ns name g) := by
  have hcredentials : StoreM.FailsIn BeforePlacing (credentials ns g) :=
    (failsIn_secretValue _ _ _).bind fun _ =>
      (failsIn_secretValue _ _ _).bind fun _ => StoreM.failsIn_pure _
  refine hcredentials.bind fun c => (failsIn_checkEnvironment ns g).bind fun _ => ?_
  refine StoreM.failsIn_ofExcept fun e he => ?_
  cases hbuild : g.desired c with
  | error source =>
      rw [hbuild] at he
      cases he
      rfl
  | ok objects =>
      rw [hbuild] at he
      cases he

/-! ## The courses of a run -/

/-- The courses that a run can take: its result, the keys that it writes, and the contents that it
leaves. -/
inductive Course (ns name : String) (s : MemoryStore) :
    Except GatewayError ReconcileAction → List StoreKey → MemoryStore → Prop
  | missing : s.object? .gateway ns name = none → Course ns name s (.ok .done) [] s.contents
  | failed (e : GatewayError) : BeforePlacing e → Course ns name s (.error e) [] s.contents
  | defaulted (g : Gateway) : s.object? .gateway ns name = some g →
      Course ns name s (.ok .needsRequeue) [⟨.gateway, ns, name⟩]
        (s.contents.write .gateway ⟨.gateway, ns, name⟩ g.defaulted)
  | stopped (g : Gateway) (objects : DesiredObjects) (before : List Placement) (p : Placement)
      (after : List Placement) (source : StoreError) (written : List StoreKey) :
      s.object? .gateway ns name = some g → g.Prepared ns s objects →
      objects.placements = before ++ p :: after → written.Sublist (g.objectKeys ns) →
      Course ns name s (.error (.reconcileObject p.part source)) written
        (WantedObject.settleAll (before.map (·.wanted)) s.contents)
  | done (g : Gateway) (objects : DesiredObjects) (written : List StoreKey) :
      s.object? .gateway ns name = some g → g.Prepared ns s objects →
      written.Sublist (g.objectKeys ns) →
      Course ns name s (.ok .done) written (WantedObject.settleAll objects.wanted s.contents)

theorem course_converge (hs : s.Sound) (hget : .get ∉ s.failing)
    (hstored : s.object? .gateway ns name = some g) :
    Course ns name s (s.exec (converge ns name g)).1 (s.execWrites (converge ns name g))
      (s.exec (converge ns name g)).2.contents := by
  have hfails (e : GatewayError) : (s.exec (prepare ns name g)).1 = .error e → BeforePlacing e :=
    (failsIn_prepare ns name g).exec
  have hns : g.metadata.namespace = some ns :=
    (Kind.storeKey_eq_ok.1 (hs.keeps hstored).storeKey).2.1
  unfold converge
  rw [MemoryStore.exec_bind, MemoryStore.execWrites_bind,
    MemoryStore.execWrites_of_isReadOnly (isReadOnly_prepare ns name g), List.nil_append]
  obtain ⟨e, t, hexec, ht, -⟩ | ⟨objects, t, hexec, ht, -, hprepared⟩ :=
    exec_prepare_cases hs hget g ns name
  · rw [hexec] at hfails ⊢
    dsimp only
    rw [ht]
    exact .failed e (hfails e rfl)
  · -- The objects are placed in the contents of `s`, since reading has changed nothing but calls.
    have hsound : t.Sound := hs.of_contents_eq ht.symm
    obtain ⟨c, hreads, hobjects⟩ := hprepared
    have hplaced := Placement.exec_runAll_split hsound fun p hp =>
      exists_storeKey_wanted hobjects p.wanted (List.mem_map_of_mem hp)
    obtain ⟨keys, hkeys, hsublist⟩ := storeKeys_placements hobjects hns
    have hwritten := (Placement.execWrites_runAll hsound hkeys).trans hsublist
    rw [ht] at hplaced
    rw [hexec]
    dsimp only
    rw [MemoryStore.exec_bind, MemoryStore.execWrites_bind, DesiredObjects.placeAll_eq]
    rcases hplacing : t.exec (Placement.runAll objects.placements) with ⟨e | ⟨⟩, u⟩ <;>
      simp only [hplacing] at hplaced <;>
      simp only [MemoryStore.execWrites_pure, MemoryStore.exec_pure, List.append_nil]
    · obtain ⟨hok, -⟩ | ⟨before, p, after, hsplit, op, -, herror, hcontents⟩ := hplaced
      · cases hok
      · cases herror
        rw [hcontents]
        exact .stopped g objects before p after _ _ hstored ⟨c, hreads, hobjects⟩ hsplit hwritten
    · obtain ⟨-, hcontents⟩ | ⟨before, p, after, -, op, -, herror, -⟩ := hplaced
      · rw [hcontents]
        exact .done g objects _ hstored ⟨c, hreads, hobjects⟩ hwritten
      · cases herror

theorem Course.of_contents_eq {r : Except GatewayError ReconcileAction} {written : List StoreKey}
    {t u : MemoryStore} (h : Course ns name s r written u) (hst : s.contents = t.contents) :
    Course ns name t r written u := by
  have hobject (g : Gateway) (hstored : s.object? .gateway ns name = some g) :
      t.object? .gateway ns name = some g :=
    (MemoryStore.object?_of_contents_eq hst .gateway ns name).symm.trans hstored
  cases h with
  | missing hmissing =>
      rw [hst]
      exact .missing ((MemoryStore.object?_of_contents_eq hst .gateway ns name).symm.trans hmissing)
  | failed e he =>
      rw [hst]
      exact .failed e he
  | defaulted g hstored =>
      rw [hst]
      exact .defaulted g (hobject g hstored)
  | stopped g objects before p after source written hstored hprepared hsplit hwritten =>
      rw [hst]
      exact .stopped g objects before p after source written (hobject g hstored)
        (hprepared.of_contents_eq hst) hsplit hwritten
  | done g objects written hstored hprepared hwritten =>
      rw [hst]
      exact .done g objects written (hobject g hstored) (hprepared.of_contents_eq hst) hwritten

theorem exec_reconcile_of_missing (hs : s.Sound) (hget : .get ∉ s.failing)
    (hmissing : s.object? .gateway ns name = none) :
    s.exec (reconcile ns name) = (.ok .done, s.record .get ⟨.gateway, ns, name⟩) := by
  unfold reconcile
  rw [MemoryStore.exec_bind, MemoryStore.exec_mapError, MemoryStore.exec_get, hs.get_eq,
    if_neg hget, hmissing]
  rfl

theorem exec_reconcile_of_unread (hs : s.Sound) (hget : .get ∈ s.failing) :
    s.exec (reconcile ns name) =
      (.error (.getGateway ns name (.injected .get)), s.record .get ⟨.gateway, ns, name⟩) := by
  unfold reconcile
  rw [MemoryStore.exec_bind, MemoryStore.exec_mapError, MemoryStore.exec_get, hs.get_eq,
    if_pos hget]
  rfl

/-- Every run takes one of the courses. -/
theorem course_reconcile (hs : s.Sound) (ns name : String) :
    Course ns name s (s.exec (reconcile ns name)).1 (s.execWrites (reconcile ns name))
      (s.exec (reconcile ns name)).2.contents := by
  have hread : (s.record .get ⟨.gateway, ns, name⟩).contents = s.contents := rfl
  have hsound : (s.record .get ⟨.gateway, ns, name⟩).Sound := hs.record _ _
  rw [reconcile_eq, MemoryStore.exec_bind, MemoryStore.execWrites_bind,
    MemoryStore.execWrites_of_isReadOnly ((StoreM.isReadOnly_get _ _ _).mapError _),
    MemoryStore.exec_mapError, MemoryStore.exec_get, hs.get_eq, List.nil_append]
  by_cases hget : .get ∈ s.failing
  · rw [if_pos hget]
    exact .failed _ rfl
  rw [if_neg hget]
  cases hstored : s.object? .gateway ns name with
  | none => exact .missing hstored
  | some g =>
      dsimp only [Except.mapError]
      split_ifs with hlacks
      · have hupdate := update_defaulted_of_stored hsound hstored
        have hkey : Kind.gateway.storeKey g.defaulted = .ok ⟨.gateway, ns, name⟩ :=
          (hs.keeps hstored).storeKey
        rw [MemoryStore.exec_bind, MemoryStore.execWrites_bind, MemoryStore.execWrites_mapError,
          MemoryStore.exec_mapError, MemoryStore.execWrites_update, MemoryStore.exec_update,
          hupdate]
        split_ifs with hop
        · exact .failed _ rfl
        · simp only [MemoryStore.writtenKey, hkey, Except.mapError, MemoryStore.execWrites_pure,
            MemoryStore.exec_pure, List.append_nil]
          exact .defaulted g hstored
      · exact (course_converge hsound hget hstored).of_contents_eq hread

/-! ## What a run leaves -/

variable {before rest : List Placement}

/-- The objects that were placed are in place. -/
theorem settled_placed (hs : s.Sound) (hobjects : g.desired c = .ok objects)
    (hsplit : objects.placements = before ++ rest) :
    ∀ q ∈ before, q.wanted.Settled (WantedObject.settleAll (before.map (·.wanted)) s) := by
  have hsublist : (before.map (·.wanted)).Sublist objects.wanted := by
    rw [DesiredObjects.wanted, hsplit]
    exact (List.sublist_append_left _ _).map _
  have hsettled := WantedObject.settled_settleAll hs
    (fun w hw => exists_storeKey_wanted hobjects w (hsublist.subset hw))
    ((pairwise_storeKey_wanted objects).sublist hsublist)
  exact fun q hq => hsettled q.wanted (List.mem_map_of_mem hq)

/-- Every key but those of the objects that were placed is as it was. -/
theorem get?_placed_of_ne (hobjects : g.desired c = .ok objects)
    (hsplit : objects.placements = before ++ rest)
    (hkey : ∀ q ∈ before, q.wanted.storeKey ≠ .ok key) :
    (WantedObject.settleAll (before.map (·.wanted)) s).objects.get? key = s.objects.get? key := by
  refine WantedObject.get?_settleAll fun w hw => ?_
  obtain ⟨q, hq, rfl⟩ := List.mem_map.1 hw
  have hplaced : q ∈ objects.placements := hsplit ▸ List.mem_append_left _ hq
  obtain ⟨key', hkey'⟩ := exists_storeKey_wanted hobjects q.wanted (List.mem_map_of_mem hplaced)
  refine ⟨key', hkey', ?_⟩
  rintro rfl
  exact hkey q hq hkey'

namespace Course

variable {written : List StoreKey} {u : MemoryStore}

theorem written_cases {r : Except GatewayError ReconcileAction} (h : Course ns name s r written u) :
    written = [] ∨ (written = [⟨.gateway, ns, name⟩] ∧ r = .ok .needsRequeue) ∨
      ∃ g, s.object? .gateway ns name = some g ∧ written.Sublist (g.objectKeys ns) := by
  cases h with
  | missing _ => exact .inl rfl
  | failed e _ => exact .inl rfl
  | defaulted g hstored => exact .inr (.inl ⟨rfl, rfl⟩)
  | stopped g objects before p after source written hstored _ _ hwritten =>
      exact .inr (.inr ⟨g, hstored, hwritten⟩)
  | done g objects written hstored _ hwritten => exact .inr (.inr ⟨g, hstored, hwritten⟩)

/-- What a run that fails at an object of its gateway has done. -/
theorem of_stopped {part : GatewayPart} {source : StoreError} (hs : s.Sound)
    (h : Course ns name s (.error (.reconcileObject part source)) written u) :
    ∃ g objects before p after, s.object? .gateway ns name = some g ∧
      g.Prepared ns s objects ∧ objects.placements = before ++ p :: after ∧ p.part = part ∧
      (∀ q ∈ before, q.wanted.Settled u) ∧
      ∀ key', (∀ q ∈ before, q.wanted.storeKey ≠ .ok key') →
        u.objects.get? key' = s.objects.get? key' := by
  have hcontents : s.contents.Sound := hs.of_contents_eq rfl
  cases h with
  | failed e he => cases he
  | stopped g objects before p after source written hstored hprepared hsplit hwritten =>
      obtain ⟨c, hreads, hobjects⟩ := hprepared
      exact ⟨g, objects, before, p, after, hstored, ⟨c, hreads, hobjects⟩, hsplit, rfl,
        settled_placed hcontents hobjects hsplit,
        fun key' hkey' => get?_placed_of_ne hobjects hsplit hkey'⟩

/-- What a run that is done has done for its gateway. -/
theorem of_done (hs : s.Sound) (hstored : s.object? .gateway ns name = some g)
    (h : Course ns name s (.ok .done) written u) :
    ∃ objects, g.Prepared ns s objects ∧ ∀ p ∈ objects.placements, p.wanted.Settled u := by
  have hcontents : s.contents.Sound := hs.of_contents_eq rfl
  cases h with
  | missing hmissing => cases hmissing.symm.trans hstored
  | done g' objects written hstored' hprepared _ =>
      cases hstored'.symm.trans hstored
      obtain ⟨c, hreads, hobjects⟩ := hprepared
      exact ⟨objects, ⟨c, hreads, hobjects⟩,
        settled_placed hcontents hobjects (List.append_nil _).symm⟩

end Course

/-- Whatever a store holds and refuses, a run writes nothing, or the gateway alone and then asks to
be repeated, or objects of the gateway in their order, and nothing else changes.  If it is done for
a gateway that is there, the objects agree with what is wanted.  If it fails at one of them, the
earlier ones do, and all the others and the rest of the store are as they were.  For a gateway that
is not there it looks once, and is done unless the look fails. -/
theorem reconcile_frame (hs : s.Reachable) (ns name : String) :
    let key : StoreKey := ⟨.gateway, ns, name⟩
    let r := (s.exec (reconcile ns name)).1
    let t := (s.exec (reconcile ns name)).2
    let written := s.execWrites (reconcile ns name)
    (written = [] ∨ (written = [key] ∧ r = .ok .needsRequeue) ∨
        ∃ g, s.peek .gateway ns name = .ok (some g) ∧ written.Sublist (g.objectKeys ns)) ∧
      (∀ key' ∉ written, t.objects.get? key' = s.objects.get? key') ∧
      (∀ g, s.peek .gateway ns name = .ok (some g) → r = .ok .done →
        ∃ objects, g.Prepared ns s objects ∧ ∀ p ∈ objects.placements, p.wanted.Settled t) ∧
      (∀ part source, r = .error (.reconcileObject part source) →
        ∃ g objects before p after, s.peek .gateway ns name = .ok (some g) ∧
          g.Prepared ns s objects ∧ objects.placements = before ++ p :: after ∧ p.part = part ∧
          (∀ q ∈ before, q.wanted.Settled t) ∧
          ∀ key', (∀ q ∈ before, q.wanted.storeKey ≠ .ok key') →
            t.objects.get? key' = s.objects.get? key') ∧
      (s.objects.get? key = none →
        s.exec (reconcile ns name) =
          (if .get ∈ s.failing then .error (.getGateway ns name (.injected .get)) else .ok .done,
            s.record .get key)) := by
  intro key r t written
  have hsound := hs.sound
  have hpeek (g : Gateway) :
      s.peek .gateway ns name = .ok (some g) ↔ s.object? .gateway ns name = some g := by
    rw [hsound.peek_eq, Except.ok.injEq]
  have hcourse : Course ns name s r written t.contents := course_reconcile hsound ns name
  refine ⟨?_, fun key' hkey' => MemoryStore.get?_run_of_notMem hkey', fun g hg hr => ?_,
    fun part source hr => ?_, fun hmissing => ?_⟩
  · simpa only [hpeek] using hcourse.written_cases
  · rw [hr] at hcourse
    obtain ⟨objects, hprepared, hsettled⟩ := hcourse.of_done hsound ((hpeek g).1 hg)
    exact ⟨objects, hprepared, hsettled⟩
  · rw [hr] at hcourse
    obtain ⟨g, objects, before, p, after, hstored, hstops⟩ := hcourse.of_stopped hsound
    exact ⟨g, objects, before, p, after, (hpeek g).2 hstored, hstops⟩
  · have hnone : s.object? .gateway ns name = none := by rw [MemoryStore.object?, hmissing]; rfl
    split_ifs with hget
    · exact exec_reconcile_of_unread hsound hget
    · exact exec_reconcile_of_missing hsound hget hnone

/-- A store in which the Secret with the endpoint is outdated, and that refuses to create. -/
def refusingStore : MemoryStore :=
  (portalStore.insert .secret
    { metadata :=
        { name := some "apicast-edge-admin-portal-endpoint", «namespace» := some "apis" }
      stringData := some (.ofList [("AdminPortalURL", "a://old")]) }).2.fail .create

theorem reconcile_refusingStore :
    (refusingStore.exec (reconcile "apis" "edge")).1 =
      .error (.reconcileObject .deployment (.injected .create)) := rfl

theorem reachable_refusingStore : refusingStore.Reachable :=
  (reachable_portalStore.insert _ _).fail _

theorem refusingStore_frame :
    ∃ g objects before p after, refusingStore.peek .gateway "apis" "edge" = .ok (some g) ∧
      g.Prepared "apis" refusingStore objects ∧ objects.placements = before ++ p :: after ∧
      p.part = .deployment ∧
      ∀ q ∈ before, q.wanted.Settled (refusingStore.exec (reconcile "apis" "edge")).2 := by
  obtain ⟨-, -, -, hstops, -⟩ := reconcile_frame reachable_refusingStore "apis" "edge"
  obtain ⟨g, objects, before, p, after, hstored, hprepared, hsplit, hpart, hsettled, -⟩ :=
    hstops _ _ reconcile_refusingStore
  exact ⟨g, objects, before, p, after, hstored, hprepared, hsplit, hpart, hsettled⟩

/-- That a gateway is not there does not make a run be done if the store refuses to look. -/
theorem not_done_of_refused_look :
    ¬ ∀ s : MemoryStore, s.Reachable → ∀ ns name, s.objects.get? ⟨.gateway, ns, name⟩ = none →
      s.exec (reconcile ns name) = (.ok .done, s.record .get ⟨.gateway, ns, name⟩) := by
  intro h
  have hdone := h (({} : MemoryStore).fail .get) (MemoryStore.Reachable.empty.fail .get)
    "apis" "edge" rfl
  have hresult : ((({} : MemoryStore).fail .get).exec (reconcile "apis" "edge")).1 =
      .error (.getGateway "apis" "edge" (.injected .get)) := rfl
  rw [hdone] at hresult
  cases hresult

end Gateway

end ApiPlatform
