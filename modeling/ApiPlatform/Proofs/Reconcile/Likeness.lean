import ApiPlatform.Proofs.Reconcile.Settling
/-!
# Objects that differ in what a store gives them

A store gives every object a version, and an identifier to one that comes without.  Two stores that
agree under the key of an object, whatever else they hold and however many versions they have
handed out, settle it alike: the outcomes differ in what was given, and in nothing else.
-/

namespace ApiPlatform

/-- The object without its version and its identifier. -/
def Kind.anonymous (k : Kind) (o : k.Object) : k.Object :=
  k.withMetadata o { k.metadata o with resourceVersion := none, uid := none }

namespace MemoryStore

/-- Two stores have the same under some keys. -/
def AgreeOn (keys : List StoreKey) (s t : MemoryStore) : Prop :=
  ∀ key ∈ keys, s.objects.get? key = t.objects.get? key

/-- What became of an object on two ways is the same but for versions.  The identifiers are the same
as well, unless there was no object, and the store gave one to the new object. -/
structure Alike {k : Kind} (old new new' : Option k.Object) : Prop where
  same : new.map k.anonymous = new'.map k.anonymous
  uid : old.isSome → new.map (fun o => (k.metadata o).uid) = new'.map fun o => (k.metadata o).uid
  assigned : old = none → ∀ o, new = some o ∨ new' = some o →
    ∃ v, (k.metadata o).uid = some (newUid v)

/-- What became of the object under a key on two ways is alike. -/
def AlikeAt (key : StoreKey) (s t t' : MemoryStore) : Prop :=
  Alike (s.object? key.kind key.namespace key.name) (t.object? key.kind key.namespace key.name)
    (t'.object? key.kind key.namespace key.name)

variable {k : Kind} {old new new' : Option k.Object} {key : StoreKey}
  {s s' t t' u u' : MemoryStore}

theorem Alike.refl (old : Option k.Object) : Alike old old old where
  same := rfl
  uid _ := rfl
  assigned hnone o ho := by simp [hnone] at ho

theorem Alike.symm (h : Alike old new new') : Alike old new' new where
  same := h.same.symm
  uid hold := (h.uid hold).symm
  assigned hnone o ho := h.assigned hnone o ho.symm

theorem anonymous_keptObject (o : k.Object) (v v' : Nat) :
    k.anonymous (keptObject k o v) = k.anonymous (keptObject k o v') := by
  cases k <;> rfl

theorem alike_keptObject {live o : k.Object} (huid : (k.metadata o).uid.isSome) (v v' : Nat) :
    Alike (some live) (some (keptObject k o v)) (some (keptObject k o v')) where
  same := congrArg some (anonymous_keptObject o v v')
  uid _ := by
    obtain ⟨id, hid⟩ := Option.isSome_iff_exists.1 huid
    simp [hid]
  assigned hnone := nomatch hnone

theorem alike_keptObject_of_new {o : k.Object} (huid : (k.metadata o).uid = none) (v v' : Nat) :
    Alike none (some (keptObject k o v)) (some (keptObject k o v')) where
  same := congrArg some (anonymous_keptObject o v v')
  uid hold := nomatch hold
  assigned _ o' ho' := by
    rcases ho' with ho' | ho'
    · cases ho'
      exact ⟨v, by simp [huid]⟩
    · cases ho'
      exact ⟨v', by simp [huid]⟩

theorem object?_congr (h : s.objects.get? key = t.objects.get? key) :
    s.object? key.kind key.namespace key.name = t.object? key.kind key.namespace key.name := by
  rw [object?, object?, h]

theorem AlikeAt.refl (key : StoreKey) (s : MemoryStore) : AlikeAt key s s s := Alike.refl _

theorem AlikeAt.symm (h : AlikeAt key s t t') : AlikeAt key s t' t := Alike.symm h

/-- Whether outcomes are alike depends on what is under the key. -/
theorem AlikeAt.congr (h : AlikeAt key s t t') (hs : s'.objects.get? key = s.objects.get? key)
    (ht : u.objects.get? key = t.objects.get? key)
    (ht' : u'.objects.get? key = t'.objects.get? key) : AlikeAt key s' u u' := by
  unfold AlikeAt
  rw [object?_congr hs, object?_congr ht, object?_congr ht']
  exact h

end MemoryStore

namespace WantedObject

open MemoryStore (AlikeAt alike_keptObject alike_keptObject_of_new object?_congr)

variable {w : WantedObject} {ws : List WantedObject} {key : StoreKey} {s t : MemoryStore}

theorem alikeAt_settle (hs : s.Sound) (hkey : w.storeKey = .ok key)
    (hget : s.objects.get? key = t.objects.get? key)
    (huid : (w.kind.kind.metadata w.object).uid = none) :
    AlikeAt key s (w.settle s) (w.settle t) := by
  obtain ⟨k, ns, name⟩ := key
  obtain ⟨hkind, -, -⟩ := Kind.storeKey_eq_ok.1 hkey
  obtain rfl : k = w.kind.kind := hkind
  have hsame : w.live? ⟨w.kind.kind, ns, name⟩ t = w.live? ⟨w.kind.kind, ns, name⟩ s :=
    (object?_congr hget).symm
  cases hlive : w.live? ⟨w.kind.kind, ns, name⟩ s with
  | none =>
      have hlive' := hsame.trans hlive
      rw [settle_of_live?_eq_none hkey hlive, settle_of_live?_eq_none hkey hlive']
      unfold AlikeAt
      rw [MemoryStore.object?_write_self hkey, MemoryStore.object?_write_self hkey]
      change s.object? w.kind.kind ns name = none at hlive
      rw [hlive]
      exact alike_keptObject_of_new huid _ _
  | some live =>
      have hlive' := hsame.trans hlive
      by_cases hagrees : w.kind.Agrees w.object live
      · rw [settle_of_inPlace hkey ⟨live, hlive, hagrees⟩,
          settle_of_inPlace hkey ⟨live, hlive', hagrees⟩]
        exact (AlikeAt.refl _ s).congr rfl rfl hget.symm
      · have hchanged := storeKey_copyOnto w.kind w.object (storeKey_of_live? hs hkey hlive)
        have hlives : (w.kind.kind.metadata (w.kind.copyOnto w.object live).1).uid.isSome := by
          rw [ManagedKind.metadata_copyOnto]
          exact (hs.keeps hlive).uid
        rw [settle_of_not_agrees hkey hlive hagrees, settle_of_not_agrees hkey hlive' hagrees]
        unfold AlikeAt
        rw [MemoryStore.object?_write_self hchanged, MemoryStore.object?_write_self hchanged]
        change s.object? w.kind.kind ns name = some live at hlive
        rw [hlive]
        exact alike_keptObject hlives _ _

/-- Objects of different keys are settled alike in stores that agree on these keys. -/
theorem alikeAt_settleAll (hs : s.Sound)
    (hkeys : ∀ w ∈ ws, ∃ key, w.storeKey = .ok key)
    (hdistinct : ws.Pairwise fun w w' => w.storeKey ≠ w'.storeKey)
    (huid : ∀ w ∈ ws, (w.kind.kind.metadata w.object).uid = none)
    (hget : ∀ w ∈ ws, ∀ key, w.storeKey = .ok key → s.objects.get? key = t.objects.get? key) :
    ∀ w ∈ ws, ∀ key, w.storeKey = .ok key → AlikeAt key s (settleAll ws s) (settleAll ws t) := by
  induction ws generalizing s t with
  | nil => simp
  | cons w ws ih =>
      obtain ⟨⟨key, hkey⟩, hkeys⟩ := List.forall_mem_cons.1 hkeys
      obtain ⟨hne, hdistinct⟩ := List.pairwise_cons.1 hdistinct
      obtain ⟨hw, huid⟩ := List.forall_mem_cons.1 huid
      obtain ⟨hgetw, hget⟩ := List.forall_mem_cons.1 hget
      -- What is settled later lies under other keys, so it finds and leaves the same there.
      have hother : ∀ w' ∈ ws, ∀ key', w'.storeKey = .ok key' → key' ≠ key := by
        rintro w' hw' key' hkey' rfl
        exact hne w' hw' (hkey.trans hkey'.symm)
      refine List.forall_mem_cons.2 ⟨fun key' hkey' => ?_, fun w' hw' key' hkey' => ?_⟩
      · obtain rfl : key = key' := Except.ok.inj (hkey.symm.trans hkey')
        have hlater (u : MemoryStore) :
            (settleAll ws (w.settle u)).objects.get? key = (w.settle u).objects.get? key := by
          refine get?_settleAll fun w' hw' => ?_
          obtain ⟨key', hkey'⟩ := hkeys w' hw'
          exact ⟨key', hkey', (hother w' hw' key' hkey').symm⟩
        exact (alikeAt_settle hs hkey (hgetw key hkey) hw).congr rfl (hlater s) (hlater t)
      · have hfirst (u : MemoryStore) : ∀ w' ∈ ws, ∀ key', w'.storeKey = .ok key' →
            (w.settle u).objects.get? key' = u.objects.get? key' :=
          fun w' hw' key' hkey' => get?_settle_of_ne hkey (hother w' hw' key' hkey')
        have hagree : ∀ w' ∈ ws, ∀ key', w'.storeKey = .ok key' →
            (w.settle s).objects.get? key' = (w.settle t).objects.get? key' := by
          intro w' hw' key' hkey'
          rw [hfirst s w' hw' key' hkey', hfirst t w' hw' key' hkey', hget w' hw' key' hkey']
        have halike := ih (settle_sound hs) hkeys hdistinct huid hagree
        exact (halike w' hw' key' hkey').congr (hfirst s w' hw' key' hkey').symm rfl rfl

/-- Whatever two stores have in common is left alike, whether it is settled or not. -/
theorem alikeAt_settleAll_of_get?_eq (hs : s.Sound)
    (hkeys : ∀ w ∈ ws, ∃ key, w.storeKey = .ok key)
    (hdistinct : ws.Pairwise fun w w' => w.storeKey ≠ w'.storeKey)
    (huid : ∀ w ∈ ws, (w.kind.kind.metadata w.object).uid = none)
    (hget : ∀ w ∈ ws, ∀ key, w.storeKey = .ok key → s.objects.get? key = t.objects.get? key)
    (hkey : s.objects.get? key = t.objects.get? key) :
    AlikeAt key s (settleAll ws s) (settleAll ws t) := by
  by_cases hwanted : ∃ w ∈ ws, w.storeKey = .ok key
  · obtain ⟨w, hw, hwkey⟩ := hwanted
    exact alikeAt_settleAll hs hkeys hdistinct huid hget w hw key hwkey
  · have hleft (u : MemoryStore) : (settleAll ws u).objects.get? key = u.objects.get? key := by
      refine get?_settleAll fun w hw => ?_
      obtain ⟨key', hkey'⟩ := hkeys w hw
      exact ⟨key', hkey', fun heq => hwanted ⟨w, hw, heq ▸ hkey'⟩⟩
    exact (AlikeAt.refl key s).congr rfl (hleft s) ((hleft t).trans hkey.symm)

end WantedObject

end ApiPlatform
