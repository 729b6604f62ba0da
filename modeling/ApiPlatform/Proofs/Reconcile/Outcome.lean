import ApiPlatform.Proofs.Reconcile.Stages
/-!
# What reconciling one object comes to

In a store that refuses nothing a run always succeeds.  It says whether it created, updated or
found the object, leaves every other key alone, and a second run finds nothing to do.
-/

namespace ApiPlatform.WantedObject

variable {w : WantedObject} {key : StoreKey} {s : MemoryStore}

/-- An object as it is kept of one that was wanted: its version and identifier are those of the
store, and the texts of a Secret are among its bytes. -/
def kept (w : WantedObject) (version uid : String) : w.kind.kind.Object :=
  w.kind.kind.folded (w.kind.kind.withMetadata w.object
    { w.kind.kind.metadata w.object with resourceVersion := some version, uid := some uid })

theorem storeKey_of_namespace {ns : String}
    (hns : (w.kind.kind.metadata w.object).namespace = some ns) :
    w.storeKey = .ok ⟨w.kind.kind, ns, w.kind.kind.objectName w.object⟩ :=
  Kind.storeKey_eq_ok.2 ⟨rfl, hns, rfl⟩

theorem get?_eq_none_iff_live? (hs : s.Sound) (hkey : w.storeKey = .ok key) :
    s.objects.get? key = none ↔ w.live? key s = none := by
  obtain ⟨ns, -, rfl⟩ := Kind.storeKey_cases hkey
  rw [hs.get?_eq, Option.map_eq_none_iff]
  rfl

theorem outcome_eq_created_iff : w.outcome key s = .created ↔ w.live? key s = none := by
  unfold outcome
  cases w.live? key s with
  | none => simp
  | some live =>
      dsimp only
      split <;> simp

/-- A run for an object that is in place looks once and writes nothing. -/
theorem exec_reconcile_of_inPlace (hs : s.Sound) (hget : .get ∉ s.failing)
    (hkey : w.storeKey = .ok key) (hplace : w.InPlace key s) :
    s.exec w.reconcile = (.ok .unchanged, s.record .get key) := by
  obtain ⟨live, hlive, hagrees⟩ := hplace
  have hran := ran_reconcile hs hkey
  generalize hexec : s.exec w.reconcile = result at hran
  obtain ⟨r, t⟩ := result
  cases hran with
  | getFails hfails => exact absurd hfails hget
  | createFails _ _ hnone => cases hnone.symm.trans hlive
  | created _ _ hnone => cases hnone.symm.trans hlive
  | unchanged _ _ => rfl
  | updateFails live' _ _ hlive' hdiffers =>
      cases hlive'.symm.trans hlive
      exact absurd hagrees hdiffers
  | updated live' _ _ hlive' hdiffers =>
      cases hlive'.symm.trans hlive
      exact absurd hagrees hdiffers

/-- What is created is what was wanted. -/
theorem live?_settle_of_live?_eq_none (hkey : w.storeKey = .ok key) (hlive : w.live? key s = none) :
    ∃ version uid, w.live? key (w.settle s) = some (w.kept version uid) := by
  rw [settle_of_live?_eq_none hkey hlive]
  exact ⟨_, _, MemoryStore.object?_write_self hkey⟩

/-- One run for an object of any kind, and another one right after it. -/
theorem reconcile_settles {ns : String} (hs : s.Reachable) (hfailing : s.failing = [])
    (hns : (w.kind.kind.metadata w.object).namespace = some ns) :
    let key : StoreKey := ⟨w.kind.kind, ns, w.kind.kind.objectName w.object⟩
    ∃ outcome t, s.exec w.reconcile = (.ok outcome, t) ∧
      (outcome = .created ↔ s.objects.get? key = none) ∧
      (outcome = .created → ∃ version uid,
        t.peek w.kind.kind key.namespace key.name = .ok (some (w.kept version uid))) ∧
      (∃ live, t.peek w.kind.kind key.namespace key.name = .ok (some live) ∧
        w.kind.Agrees w.object live) ∧
      (∀ key', key' ≠ key → t.objects.get? key' = s.objects.get? key') ∧
      t.exec w.reconcile = (.ok .unchanged, t.record .get key) := by
  intro key
  have hkey : w.storeKey = .ok key := storeKey_of_namespace hns
  have hsound := hs.sound
  obtain ⟨hresult, hcontents⟩ := exec_reconcile hsound hfailing hkey
  generalize hexec : s.exec w.reconcile = run at hresult hcontents
  obtain ⟨r, t⟩ := run
  dsimp only at hresult hcontents
  subst hresult
  rw [← contents_settle] at hcontents
  have htsound : t.Sound := (settle_sound hsound).of_contents_eq hcontents.symm
  have htfailing : t.failing = [] := by
    have hkept := MemoryStore.failing_run w.reconcile.run (s := s)
    rw [← hfailing, ← hkept]
    exact congrArg (fun run => run.2.failing) hexec.symm
  have hlive : ∀ k, w.live? k t = w.live? k (w.settle s) := fun k =>
    MemoryStore.object?_of_contents_eq hcontents _ _ _
  have hobjects : t.objects = (w.settle s).objects := (MemoryStore.contents_eq_iff.1 hcontents).1
  obtain ⟨live, hplace, hagrees⟩ := inPlace_settle hsound hkey
  rw [← hlive] at hplace
  refine ⟨w.outcome key s, t, rfl, ?_, ?_, ⟨live, ?_, hagrees⟩, ?_, ?_⟩
  · rw [outcome_eq_created_iff, get?_eq_none_iff_live? hsound hkey]
  · intro hcreated
    obtain ⟨version, uid, hkept⟩ :=
      live?_settle_of_live?_eq_none hkey (outcome_eq_created_iff.1 hcreated)
    rw [← hlive] at hkept
    exact ⟨version, uid, (htsound.peek_eq _ _ _).trans (congrArg Except.ok hkept)⟩
  · exact (htsound.peek_eq _ _ _).trans (congrArg Except.ok hplace)
  · intro key' hne
    rw [hobjects, get?_settle_of_ne hkey hne]
  · exact exec_reconcile_of_inPlace htsound (by simp [htfailing]) hkey ⟨live, hplace, hagrees⟩

/-- A Secret that is wanted in a store that keeps another one of its name. -/
def portalSecret : WantedObject :=
  { kind := .secret
    object :=
      ({ metadata := { name := some "portal", «namespace» := some "apis" }
         stringData := some (.ofList [("endpoint", "https://portal.example.com")]) } : Secret) }

def outdatedSecret : Secret :=
  { metadata := { name := some "portal", «namespace» := some "apis" }
    stringData := some (.ofList [("endpoint", "https://old.example.com")]) }

theorem portalSecret_reconcile_settles :
    ∃ outcome t,
      (MemoryStore.insert {} .secret outdatedSecret).2.exec portalSecret.reconcile =
        (.ok outcome, t) ∧
      t.exec portalSecret.reconcile =
        (.ok .unchanged, t.record .get ⟨.secret, "apis", "portal"⟩) := by
  obtain ⟨outcome, t, hrun, -, -, -, -, hsecond⟩ :=
    reconcile_settles (w := portalSecret) (.insert .secret outdatedSecret .empty) rfl rfl
  exact ⟨outcome, t, hrun, hsecond⟩

end ApiPlatform.WantedObject
