import ApiPlatform.Proofs.Store.Histories
/-!
# Fidelity of a store

Whatever was done to a store, each of its objects stands under the key that its kind, namespace and
name make, in a version of its own and with an identifier that no update changes.  A read that
follows a write gives the object that was written: nothing but the version, the identifier and the
place of a Secret's texts is the store's own.
-/

namespace ApiPlatform

/-- The texts of a Secret are laid over its bytes, and nothing else is changed. -/
structure Secret.Overlaid (o read : Secret) : Prop where
  stringData : read.stringData = none
  isSome_data : read.data.isSome = (o.data.isSome || o.stringData.isSome)
  get?_data : ∀ field, (read.data.getD .empty).get? field =
    (((o.stringData.getD .empty).get? field).map Bytes.ofText).or
      ((o.data.getD .empty).get? field)
  immutable : read.immutable = o.immutable
  metadata : read.metadata = o.metadata
  type : read.type = o.type

theorem Secret.overlaid_folded (o : Secret) : o.Overlaid o.folded where
  stringData := rfl
  isSome_data := by cases h : o.stringData <;> simp [folded, h]
  get?_data field := by cases h : o.stringData <;> simp [folded, h]
  immutable := rfl
  metadata := rfl
  type := rfl

namespace Kind

/-- What is kept of the values of an object. -/
def Folds : (k : Kind) → (o read : k.Object) → Prop
  | .secret, o, read => Secret.Overlaid o read
  | .configMap, o, read => read = o
  | .service, o, read => read = o
  | .deployment, o, read => read = o
  | .deploymentConfig, o, read => read = o
  | .route, o, read => read = o
  | .ingress, o, read => read = o
  | .imageStream, o, read => read = o
  | .serviceAccount, o, read => read = o
  | .persistentVolumeClaim, o, read => read = o
  | .gateway, o, read => read = o

theorem folds_folded (k : Kind) (o : k.Object) : k.Folds o (k.folded o) := by
  cases k with
  | secret => exact Secret.overlaid_folded o
  | _ => rfl

@[simp] theorem field?_kind (k : Kind) (o : k.Object) :
    (k.codec.encode o).field? "kind" = some (.str k.name) := by
  cases k <;>
    simp [codec, name, Secret.codec, ConfigMap.codec, Service.codec, Deployment.codec,
      DeploymentConfig.codec, Route.codec, Ingress.codec, ImageStream.codec, ServiceAccount.codec,
      PersistentVolumeClaim.codec, Gateway.codec]

@[simp] theorem withMetadata_withMetadata (k : Kind) (o : k.Object) (m m' : ObjectMeta) :
    k.withMetadata (k.withMetadata o m) m' = k.withMetadata o m' := by
  cases k <;> rfl

theorem field?_stringData_folded (o : Secret) :
    (Secret.codec.encode o.folded).field? "stringData" = none := by
  simp [Secret.codec, Secret.folded]

end Kind

namespace MemoryStore

variable {s : MemoryStore} {k : Kind} {o : k.Object} {key : StoreKey} {a : StoreAction}

/-- How an object stands under its key in a store that has given out `n` versions. -/
structure StandsUnder (n : Nat) (key : StoreKey) (j : Json) : Prop where
  kind : j.field? "kind" = some (.str key.kind.name)
  readable : ∃ live, key.kind.codec.decode j = some live ∧
    (key.kind.metadata live).namespace = some key.namespace ∧
    key.kind.objectName live = key.name
  version : ∃ v, 1 ≤ v ∧ v ≤ n ∧ metadataText? "resourceVersion" j = some (versionText v)
  uid : ∃ uid, metadataText? "uid" j = some uid
  stringData : key.kind = .secret → j.field? "stringData" = none

theorem Sound.standsUnder (hs : s.Sound) {j : Json} (h : s.objects.get? key = some j) :
    StandsUnder s.lastVersion key j := by
  obtain ⟨live, hlive, rfl⟩ := hs key j h
  obtain ⟨-, hns, hname⟩ := Kind.storeKey_eq_ok.1 hlive.storeKey
  obtain ⟨v, hpos, hbound, hversion⟩ := hlive.version
  obtain ⟨uid, huid⟩ := Option.isSome_iff_exists.1 hlive.uid
  refine ⟨by simp, ⟨live, by simp [Codec.decode_encode], hns, hname⟩, ⟨v, hpos, hbound, ?_⟩,
    ⟨uid, ?_⟩, ?_⟩
  · simpa using hversion
  · simpa using huid
  · obtain ⟨kind, ns, name⟩ := key
    rintro rfl
    have hfolded : Secret.folded live = live := hlive.folded
    rw [← hfolded]
    exact Kind.field?_stringData_folded live

/-! ## Versions and identifiers -/

/-- No two objects are in the same version. -/
def Distinct (s : MemoryStore) : Prop :=
  ∀ key key' j j', s.objects.get? key = some j → s.objects.get? key' = some j' →
    metadataText? "resourceVersion" j = metadataText? "resourceVersion" j' → key = key'

/-- A version that is still to be given out stands nowhere. -/
theorem Sound.resourceVersion_ne_next (hs : s.Sound) {j : Json}
    (h : s.objects.get? key = some j) :
    metadataText? "resourceVersion" j ≠ some (versionText (s.lastVersion + 1)) := by
  obtain ⟨v, -, hbound, hversion⟩ := (hs.standsUnder h).version
  rw [hversion]
  intro hsame
  have : v = s.lastVersion + 1 := versionText_injective (Option.some.inj hsame)
  omega

theorem Distinct.write (hs : s.Sound) (h : s.Distinct) (key : StoreKey) (o : k.Object) :
    (s.write k key o).Distinct := by
  intro key₁ key₂ j₁ j₂ h₁ h₂ hsame
  rw [get?_write] at h₁ h₂
  split_ifs at h₁ h₂ with heq₁ heq₂ heq₂
  · exact heq₁.trans heq₂.symm
  · obtain rfl := Option.some.inj h₁
    exact absurd (by simpa using hsame.symm) (hs.resourceVersion_ne_next h₂)
  · obtain rfl := Option.some.inj h₂
    exact absurd (by simpa using hsame) (hs.resourceVersion_ne_next h₁)
  · exact h key₁ key₂ j₁ j₂ h₁ h₂ hsame

theorem Distinct.perform (hs : s.Sound) (h : s.Distinct) (a : StoreAction) :
    (s.perform a).Distinct := by
  unfold Distinct
  by_cases haccepts : ∃ (k : Kind) (o : k.Object), s.Accepts o a
  · obtain ⟨k, o, haccepts⟩ := haccepts
    obtain ⟨key, uid, -, hobjects, -⟩ := hs.perform_of_accepts haccepts
    rw [hobjects]
    exact h.write hs key (withUid k o uid)
  · push Not at haccepts
    rw [(hs.perform_of_not_accepts haccepts).1]
    exact h

theorem Distinct.performAll (hs : s.Sound) (h : s.Distinct) (history : List StoreAction) :
    (performAll history s).Distinct := by
  induction history generalizing s with
  | nil => exact h
  | cons a history ih => exact ih (hs.perform a) (h.perform hs a)

/-- An update changes no identifier, whichever one it is given. -/
theorem Sound.uid_update (hs : s.Sound) (k : Kind) (o : k.Object) {j : Json}
    (h : s.objects.get? key = some j) :
    ∃ j', (s.update k o).2.objects.get? key = some j' ∧
      metadataText? "uid" j' = metadataText? "uid" j := by
  cases hkey : k.storeKey o with
  | error e => exact ⟨j, by simpa [MemoryStore.update, hkey] using h, rfl⟩
  | ok key' =>
      obtain ⟨e, hrefused⟩ | ⟨live, hlive, -, hupdate⟩ := hs.update_cases hkey
      · exact ⟨j, by simpa [hrefused] using h, rfl⟩
      · rw [hupdate, objects_write_record, get?_write]
        split_ifs with heq
        · subst heq
          obtain ⟨rfl, -, -⟩ := Kind.storeKey_eq_ok.1 hkey
          rw [hs.get?_eq key.kind key.namespace key.name, hlive, Option.map_some,
            Option.some_inj] at h
          obtain ⟨uid, huid⟩ := Option.isSome_iff_exists.1 (hs.keeps hlive).uid
          have huid : (key.kind.metadata live).uid = some uid := huid
          exact ⟨_, rfl, by simp [← h, withUid, huid]⟩
        · exact ⟨j, h, rfl⟩

/-! ## Reading what was written -/

/-- What stands under the key of an object that was put in. -/
theorem Sound.object?_of_accepts (hs : s.Sound) (h : s.Accepts o a) :
    ∃ ns version uid, (k.metadata o).namespace = some ns ∧
      (s.perform a).object? k ns (k.objectName o) =
        some (k.folded (k.withMetadata o
          { k.metadata o with resourceVersion := some version, uid := some uid })) := by
  obtain ⟨key, uid, hkey, hobjects, -⟩ := hs.perform_of_accepts h
  obtain ⟨ns, -, rfl⟩ := Kind.storeKey_cases hkey
  obtain ⟨-, hns, -⟩ := Kind.storeKey_eq_ok.1 hkey
  refine ⟨ns, versionText (s.lastVersion + 1), uid.getD (newUid (s.lastVersion + 1)), hns, ?_⟩
  rw [object?, hobjects]
  refine (object?_write_self (storeKey_withUid hkey)).trans ?_
  simp [keptObject, withUid]

/-- Of any history: objects stand under their keys, versions are distinct, updates keep identifiers,
and a read right after a write gives what was written. -/
theorem faithful (history : List StoreAction) :
    let s := performAll history {}
    (∀ key j, s.objects.get? key = some j → StandsUnder s.lastVersion key j) ∧
    (∀ key key' j j', s.objects.get? key = some j → s.objects.get? key' = some j' →
      metadataText? "resourceVersion" j = metadataText? "resourceVersion" j' → key = key') ∧
    (∀ (k : Kind) (o : k.Object) key j, s.objects.get? key = some j →
      ∃ j', (s.update k o).2.objects.get? key = some j' ∧
        metadataText? "uid" j' = metadataText? "uid" j) ∧
    ∀ (k : Kind) (o : k.Object) a, s.Accepts o a →
      ∃ ns version uid read, (k.metadata o).namespace = some ns ∧
        k.Folds (k.withMetadata o
          { k.metadata o with resourceVersion := some version, uid := some uid }) read ∧
        (s.perform a).peek k ns (k.objectName o) = .ok (some read) ∧
        (.get ∉ (s.perform a).failing →
          ((s.perform a).get k ns (k.objectName o)).1 = .ok (some read)) := by
  have hs := sound_performAll history
  have hempty : Distinct {} := by
    intro key key' j j' h
    cases h
  refine ⟨fun key j h => hs.standsUnder h, hempty.performAll sound_empty history,
    fun k o key j h => hs.uid_update k o h, fun k o a haccepts => ?_⟩
  obtain ⟨ns, version, uid, hns, hread⟩ := hs.object?_of_accepts haccepts
  have hnext := hs.perform a
  refine ⟨ns, version, uid, _, hns, k.folds_folded _, ?_, fun hget => ?_⟩
  · rw [hnext.peek_eq, hread]
  · rw [hnext.get_eq, if_neg hget, hread]

end MemoryStore

end ApiPlatform
