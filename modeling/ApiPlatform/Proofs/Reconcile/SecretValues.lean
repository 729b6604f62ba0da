import ApiPlatform.Proofs.Reconcile.Likeness
/-!
# Secrets that differ in their values

Two Secrets can be the same but for one value (`Secret.masked`) or but for all of them
(`Secret.emptied`).  Where a Secret belongs and what is written under other keys does not depend on
its values.  So two Secrets that differ in nothing else are settled alike, the values aside, and so
is all that is settled behind them.
-/

namespace ApiPlatform

namespace Secret

variable {s t : Secret} {key : String}

/-- The Secret with an empty value in place of the one under a key.  A store keeps all values as
bytes. -/
def masked (key : String) (s : Secret) : Secret :=
  { s with data := s.data.map fun values =>
      if values.contains key then values.insert key [] else values }

/-- The Secret without its values. -/
def emptied (s : Secret) : Secret := { s with data := none, stringData := none }

theorem get?_strings_masked {key' : String} (hne : key' ≠ key) :
    (s.masked key).strings.get? key' = s.strings.get? key' := by
  cases hdata : s.data with
  | none => simp only [masked, strings, hdata, Option.map_none]
  | some values =>
      simp only [masked, strings, hdata, Option.map_some, Option.getD_some,
        SortedMap.get?_union, SortedMap.get?_mapValues]
      split_ifs
      · rw [SortedMap.get?_insert, if_neg hne]
      · rfl

theorem map_get?_strings_masked :
    ((s.masked key).strings.get? key).map (fun _ => ()) =
      (s.strings.get? key).map fun _ => () := by
  cases hdata : s.data with
  | none => simp only [masked, strings, hdata, Option.map_none]
  | some values =>
      simp only [masked, strings, hdata, Option.map_some, Option.getD_some,
        SortedMap.get?_union, SortedMap.get?_mapValues]
      split_ifs with hcontains
      · obtain ⟨value, hvalue⟩ := Option.isSome_iff_exists.1 hcontains
        rw [SortedMap.get?_insert, if_pos rfl, hvalue]
        cases (s.stringData.getD .empty).get? key <;> rfl
      · rfl

theorem get?_strings_of_masked_eq (h : s.masked key = t.masked key) {key' : String}
    (hne : key' ≠ key) : s.strings.get? key' = t.strings.get? key' := by
  rw [← get?_strings_masked hne, h, get?_strings_masked hne]

theorem map_get?_strings_of_masked_eq (h : s.masked key = t.masked key) :
    (s.strings.get? key).map (fun _ => ()) = (t.strings.get? key).map fun _ => () := by
  rw [← map_get?_strings_masked, h, map_get?_strings_masked]

theorem emptied_keptObject (o : Secret) (v : Nat) :
    emptied (MemoryStore.keptObject .secret o v) = MemoryStore.keptObject .secret o.emptied v := rfl

/-- A copy changes no more than values. -/
theorem emptied_copyOnto (wanted live : Secret) :
    (wanted.copyOnto live).1.emptied = live.emptied := by
  unfold copyOnto
  split_ifs <;> rfl

end Secret

/-! ## Stores -/

namespace MemoryStore

/-- Two stores hold the same but for one value of one Secret. -/
structure SameButValue (ns : String) (r : SecretKeyRef) (s t : MemoryStore) : Prop where
  secret : (s.object? .secret ns r.name).map (Secret.masked r.key) =
    (t.object? .secret ns r.name).map (Secret.masked r.key)
  others : ∀ key ≠ ⟨.secret, ns, r.name⟩, s.objects.get? key = t.objects.get? key

variable {ns name : String} {r : SecretKeyRef} {s t : MemoryStore}

theorem SameButValue.of_contents_eq {s' t' : MemoryStore} (h : SameButValue ns r s t)
    (hs : s.contents = s'.contents) (ht : t.contents = t'.contents) : SameButValue ns r s' t' where
  secret := by
    rw [← object?_of_contents_eq hs, ← object?_of_contents_eq ht]
    exact h.secret
  others key hkey := by
    rw [← (contents_eq_iff.1 hs).1, ← (contents_eq_iff.1 ht).1]
    exact h.others key hkey

/-- Writing one Secret or another one that differs in a value makes stores that do. -/
theorem SameButValue.of_insert (s : MemoryStore) {o o' : Secret}
    (hkey : Kind.secret.storeKey o = .ok ⟨.secret, ns, r.name⟩)
    (hkey' : Kind.secret.storeKey o' = .ok ⟨.secret, ns, r.name⟩)
    (h : Secret.masked r.key (keptObject .secret o (s.lastVersion + 1)) =
      Secret.masked r.key (keptObject .secret o' (s.lastVersion + 1))) :
    SameButValue ns r (s.insert .secret o).2 (s.insert .secret o').2 := by
  have hinsert : (s.insert .secret o).2 = s.write .secret ⟨.secret, ns, r.name⟩ o := by
    simp only [insert, hkey]
  have hinsert' : (s.insert .secret o').2 = s.write .secret ⟨.secret, ns, r.name⟩ o' := by
    simp only [insert, hkey']
  rw [hinsert, hinsert']
  constructor
  · have hobject := object?_write_self (s := s) hkey
    have hobject' := object?_write_self (s := s) hkey'
    dsimp only at hobject hobject'
    rw [hobject, hobject']
    exact congrArg some h
  · intro key hne
    rw [get?_write, get?_write, if_neg hne, if_neg hne]

theorem SameButValue.map_unit (h : SameButValue ns r s t) (name : String) :
    (s.object? .secret ns name).map (fun _ => ()) =
      (t.object? .secret ns name).map fun _ => () := by
  by_cases hname : name = r.name
  · subst hname
    have hsecret := congrArg (Option.map fun _ => ()) h.secret
    rwa [Option.map_map, Option.map_map] at hsecret
  · rw [object?_congr (h.others ⟨.secret, ns, name⟩ (by simp [hname]))]

/-- What became of a Secret on two ways is alike, its values aside. -/
def AlikeButValuesAt (ns name : String) (s t t' : MemoryStore) : Prop :=
  Alike (k := .secret) ((s.object? .secret ns name).map Secret.emptied)
    ((t.object? .secret ns name).map Secret.emptied)
    ((t'.object? .secret ns name).map Secret.emptied)

theorem AlikeButValuesAt.congr {s' t' u u' : MemoryStore} (h : AlikeButValuesAt ns name s t t')
    (hs : s'.objects.get? ⟨.secret, ns, name⟩ = s.objects.get? ⟨.secret, ns, name⟩)
    (ht : u.objects.get? ⟨.secret, ns, name⟩ = t.objects.get? ⟨.secret, ns, name⟩)
    (ht' : u'.objects.get? ⟨.secret, ns, name⟩ = t'.objects.get? ⟨.secret, ns, name⟩) :
    AlikeButValuesAt ns name s' u u' := by
  have hobject := object?_congr hs
  have hobject' := object?_congr ht
  have hobject'' := object?_congr ht'
  dsimp only at hobject hobject' hobject''
  unfold AlikeButValuesAt
  rw [hobject, hobject', hobject'']
  exact h

/-- A Secret that came out alike is alike without its values. -/
theorem AlikeAt.butValues {t' : MemoryStore} (h : AlikeAt ⟨.secret, ns, name⟩ s t t') :
    AlikeButValuesAt ns name s t t' where
  same := by
    have hsame := congrArg (Option.map Secret.emptied) h.same
    rw [Option.map_map, Option.map_map] at hsame ⊢
    exact hsame
  uid hold := by
    rw [Option.map_map, Option.map_map]
    exact h.uid (by simpa using hold)
  assigned hnone o ho := by
    have hnone := Option.map_eq_none_iff.1 hnone
    rcases ho with ho | ho
    · obtain ⟨whole, hwhole, rfl⟩ := Option.map_eq_some_iff.1 ho
      exact h.assigned hnone whole (.inl hwhole)
    · obtain ⟨whole, hwhole, rfl⟩ := Option.map_eq_some_iff.1 ho
      exact h.assigned hnone whole (.inr hwhole)

end MemoryStore

/-! ## Settling -/

namespace WantedObject

open MemoryStore (AlikeAt AlikeButValuesAt)

variable {w w' : Secret} {ws : List WantedObject} {key : StoreKey} {s t : MemoryStore}

theorem storeKey_of_emptied_eq (hkey : (⟨.secret, w⟩ : WantedObject).storeKey = .ok key)
    (hsame : w.emptied = w'.emptied) : (⟨.secret, w'⟩ : WantedObject).storeKey = .ok key := by
  have hmetadata : w.metadata = w'.metadata := by
    change w.emptied.metadata = w'.emptied.metadata
    rw [hsame]
  refine Kind.storeKey_congr (k := .secret) ?_ ?_ hkey <;> simp [Kind.metadata, hmetadata]

/-- Settling a Secret that is there gives it another version and other values at most. -/
theorem settle_secret_of_some (hs : s.Sound)
    (hkey : (⟨.secret, w⟩ : WantedObject).storeKey = .ok key) {live : Secret}
    (hlive : (⟨.secret, w⟩ : WantedObject).live? key s = some live) :
    ∃ o : Secret, (⟨.secret, w⟩ : WantedObject).live? key (settle ⟨.secret, w⟩ s) = some o ∧
      Kind.secret.anonymous o.emptied = Kind.secret.anonymous live.emptied ∧
      o.metadata.uid = live.metadata.uid := by
  by_cases hagrees : ManagedKind.secret.Agrees w live
  · rw [settle_of_inPlace hkey ⟨live, hlive, hagrees⟩]
    exact ⟨live, hlive, rfl, rfl⟩
  · have hchanged := storeKey_copyOnto .secret w (storeKey_of_live? hs hkey hlive)
    have hmetadata : (w.copyOnto live).1.metadata = live.metadata :=
      ManagedKind.metadata_copyOnto .secret w live
    have huid : live.metadata.uid.isSome := (hs.keeps hlive).uid
    obtain ⟨uid, huid⟩ := Option.isSome_iff_exists.1 huid
    rw [settle_of_not_agrees hkey hlive hagrees]
    refine ⟨_, MemoryStore.object?_write_self hchanged, ?_, ?_⟩
    · rw [Secret.emptied_keptObject]
      change Kind.secret.anonymous
        (MemoryStore.keptObject .secret (w.copyOnto live).1.emptied _) = _
      rw [Secret.emptied_copyOnto]
      rfl
    · change some ((w.copyOnto live).1.metadata.uid.getD _) = _
      rw [hmetadata, huid]
      rfl

section Values

variable (hs : s.Sound) (ht : t.Sound) {ns name : String}
  (hkey : (⟨.secret, w⟩ : WantedObject).storeKey = .ok ⟨.secret, ns, name⟩)
  (hsame : w.emptied = w'.emptied)
include hs ht hkey hsame

/-- Two Secrets that differ in their values are settled alike, the values aside. -/
theorem alikeButValuesAt_settle (huid : w.metadata.uid = none)
    (hget : s.objects.get? ⟨.secret, ns, name⟩ = t.objects.get? ⟨.secret, ns, name⟩) :
    AlikeButValuesAt ns name s (settle ⟨.secret, w⟩ s) (settle ⟨.secret, w'⟩ t) := by
  have hkey' := storeKey_of_emptied_eq hkey hsame
  have hobject : s.object? .secret ns name = t.object? .secret ns name :=
    MemoryStore.object?_congr hget
  unfold AlikeButValuesAt
  -- A new Secret is put in as it is wanted; one that is there keeps all but its values.
  cases hlive : s.object? .secret ns name with
  | none =>
      have hlive' := hobject.symm.trans hlive
      have hnew := MemoryStore.object?_write_self (s := s) hkey
      have hnew' := MemoryStore.object?_write_self (s := t) hkey'
      rw [settle_of_live?_eq_none hkey hlive, settle_of_live?_eq_none hkey' hlive']
      dsimp only at hnew hnew' ⊢
      rw [hnew, hnew', Option.map_none, Option.map_some, Option.map_some,
        Secret.emptied_keptObject, Secret.emptied_keptObject, ← hsame]
      exact MemoryStore.alike_keptObject_of_new (k := .secret) (o := w.emptied) huid _ _
  | some live =>
      have hlive' := hobject.symm.trans hlive
      obtain ⟨o, ho, hleft, hleftUid⟩ := settle_secret_of_some hs hkey hlive
      obtain ⟨o', ho', hleft', hleftUid'⟩ := settle_secret_of_some ht hkey' hlive'
      dsimp only [live?] at ho ho'
      rw [ho, ho', Option.map_some, Option.map_some, Option.map_some]
      exact
        { same := congrArg some (hleft.trans hleft'.symm)
          uid := fun _ => congrArg some (hleftUid.trans hleftUid'.symm)
          assigned := fun hnone => nomatch hnone }

/-- Behind two Secrets that differ in their values, the same objects of other keys are settled
alike, and so are the two Secrets, the values aside. -/
theorem alike_settleAll_of_emptied_eq (hkeys : ∀ v ∈ ws, ∃ key, v.storeKey = .ok key)
    (hdistinct : (⟨.secret, w⟩ :: ws : List WantedObject).Pairwise
      fun v v' => v.storeKey ≠ v'.storeKey)
    (huid : ∀ v ∈ (⟨.secret, w⟩ :: ws : List WantedObject),
      (v.kind.kind.metadata v.object).uid = none)
    (hget : ∀ v ∈ (⟨.secret, w⟩ :: ws : List WantedObject), ∀ key, v.storeKey = .ok key →
      s.objects.get? key = t.objects.get? key) :
    AlikeButValuesAt ns name s (settleAll (⟨.secret, w⟩ :: ws) s)
        (settleAll (⟨.secret, w'⟩ :: ws) t) ∧
      ∀ key ≠ ⟨.secret, ns, name⟩, s.objects.get? key = t.objects.get? key →
        AlikeAt key s (settleAll (⟨.secret, w⟩ :: ws) s) (settleAll (⟨.secret, w'⟩ :: ws) t) := by
  obtain ⟨hne, hdistinct⟩ := List.pairwise_cons.1 hdistinct
  obtain ⟨hnew, huid⟩ := List.forall_mem_cons.1 huid
  obtain ⟨hfirst, hget⟩ := List.forall_mem_cons.1 hget
  have hkey' := storeKey_of_emptied_eq hkey hsame
  have hother : ∀ v ∈ ws, ∀ key, v.storeKey = .ok key → key ≠ ⟨.secret, ns, name⟩ := by
    rintro v hv key hvkey rfl
    exact hne v hv (hkey.trans hvkey.symm)
  constructor
  · have hlater (u : MemoryStore) : (settleAll ws u).objects.get? ⟨.secret, ns, name⟩ =
        u.objects.get? ⟨.secret, ns, name⟩ := by
      refine get?_settleAll fun v hv => ?_
      obtain ⟨key, hvkey⟩ := hkeys v hv
      exact ⟨key, hvkey, (hother v hv key hvkey).symm⟩
    exact (alikeButValuesAt_settle hs ht hkey hsame hnew (hfirst _ hkey)).congr rfl
      (hlater _) (hlater _)
  · -- The first Secret is written under its own key, so the others find what they would have found.
    have hleft (key : StoreKey) (hne : key ≠ ⟨.secret, ns, name⟩) :
        (settle ⟨.secret, w⟩ s).objects.get? key = s.objects.get? key :=
      get?_settle_of_ne hkey hne
    have hleft' (key : StoreKey) (hne : key ≠ ⟨.secret, ns, name⟩) :
        (settle ⟨.secret, w'⟩ t).objects.get? key = t.objects.get? key :=
      get?_settle_of_ne hkey' hne
    have hfound (key : StoreKey) (hne : key ≠ ⟨.secret, ns, name⟩)
        (h : s.objects.get? key = t.objects.get? key) :
        (settle ⟨.secret, w⟩ s).objects.get? key = (settle ⟨.secret, w'⟩ t).objects.get? key := by
      rw [hleft key hne, hleft' key hne, h]
    intro key hne hsamekey
    have halike := alikeAt_settleAll_of_get?_eq (settle_sound (w := ⟨.secret, w⟩) hs) hkeys
      hdistinct huid
      (fun v hv key hvkey => hfound key (hother v hv key hvkey) (hget v hv key hvkey))
      (hfound key hne hsamekey)
    exact halike.congr (hleft key hne).symm rfl rfl

end Values

end WantedObject

end ApiPlatform
