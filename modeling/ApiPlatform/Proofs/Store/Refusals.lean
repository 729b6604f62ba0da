import ApiPlatform.Proofs.Store.Histories
/-!
# Calls that fail

A call that is answered with an error leaves the objects of a store as they were, whatever the error
is.  A look, a create or an update that fails takes no version number either, so what is put in next
gets the version that it would have got.  Only an insert takes its number before it knows whether
the object states a namespace, and skips one if it does not.
-/

namespace ApiPlatform

/-- How many version numbers a call takes when it fails. -/
def StoreAction.skipped : StoreAction → Nat
  | .insert _ _ => 1
  | _ => 0

namespace MemoryStore

variable {s t : MemoryStore} {k : Kind} {o : k.Object} {key : StoreKey} {a b : StoreAction}
  {e : StoreError} {version : Nat}

/-- The action is a call, and it is answered with the error. -/
inductive Fails (s : MemoryStore) : StoreAction → StoreError → Prop
  | insert {k : Kind} {o : k.Object} {e : StoreError} :
      (s.insert k o).1 = .error e → Fails s (.insert k o) e
  | get {k : Kind} {ns name : String} {e : StoreError} :
      (s.get k ns name).1 = .error e → Fails s (.get k ns name) e
  | create {k : Kind} {o : k.Object} {e : StoreError} :
      (s.create k o).1 = .error e → Fails s (.create k o) e
  | update {k : Kind} {o : k.Object} {e : StoreError} :
      (s.update k o).1 = .error e → Fails s (.update k o) e

/-- The action puts an object in under the key, where it stands in the version. -/
def PutsIn (s : MemoryStore) (key : StoreKey) (version : Nat) (a : StoreAction) : Prop :=
  s.Puts key a ∧ ∃ live : key.kind.Object,
    (s.perform a).object? key.kind key.namespace key.name = some live ∧
      (key.kind.metadata live).resourceVersion = some (versionText version)

/-! ## What a failed call leaves -/

/-- An insert fails for want of a namespace only. -/
theorem insert_of_error (h : (s.insert k o).1 = .error e) :
    e = .missingNamespace k (k.objectName o) ∧ (s.insert k o).2 = s.advance := by
  unfold insert Kind.storeKey Kind.namespaceOf at h ⊢
  cases hns : (k.metadata o).namespace with
  | none =>
      rw [hns] at h
      exact ⟨(Except.error.inj h).symm, rfl⟩
  | some ns =>
      rw [hns] at h
      cases h

namespace Sound

theorem create_of_error (hs : s.Sound) (h : (s.create k o).1 = .error e) :
    (s.create k o).2.clearCalls = s.clearCalls := by
  cases hkey : k.storeKey o with
  | error e' => simp [MemoryStore.create, hkey]
  | ok key =>
      rw [hs.create_eq hkey] at h ⊢
      split_ifs at h ⊢
      · rfl
      · rfl

theorem update_of_error (hs : s.Sound) (h : (s.update k o).1 = .error e) :
    (s.update k o).2.clearCalls = s.clearCalls := by
  cases hkey : k.storeKey o with
  | error e' => simp [MemoryStore.update, hkey]
  | ok key =>
      obtain ⟨e', hrefused⟩ | ⟨live, -, -, hupdate⟩ := hs.update_cases hkey
      · rw [hrefused]
        rfl
      · rw [hupdate] at h
        cases h

/-- A failed call changes nothing but the calls and, if it skips one, the version number. -/
theorem clearCalls_perform_of_fails (hs : s.Sound) (h : s.Fails a e) :
    (s.perform a).clearCalls =
      { s.clearCalls with lastVersion := s.lastVersion + a.skipped } := by
  cases h with
  | insert h =>
      simp only [MemoryStore.perform]
      rw [(insert_of_error h).2]
      rfl
  | get h =>
      simp only [MemoryStore.perform]
      rw [hs.get_eq]
      rfl
  | create h => exact hs.create_of_error h
  | update h => exact hs.update_of_error h

/-! ## What is put in next -/

/-- Whether an object is put in depends on the objects that are there and on what is refused. -/
theorem puts_congr (hs : s.Sound) (ht : t.Sound) (hobjects : s.objects = t.objects)
    (hfailing : s.failing = t.failing) (h : s.Puts key b) : t.Puts key b := by
  obtain ⟨k, o, haccepts, hkey⟩ := h
  have hobject : s.object? k key.namespace key.name = t.object? k key.namespace key.name := by
    rw [object?, object?, hobjects]
  refine ⟨k, o, ?_, hkey⟩
  cases haccepts with
  | insert h => exact .insert (by simp [MemoryStore.insert, hkey])
  | create h =>
      have hcreate := ht.create_eq hkey
      rw [hs.create_eq hkey] at h
      rw [← hobject, ← hfailing] at hcreate
      split_ifs at h hcreate
      exact .create (congrArg Prod.fst hcreate)
  | update h =>
      have hupdate := ht.update_eq hkey
      rw [hs.update_eq hkey] at h
      rw [← hobject, ← hfailing] at hupdate
      split_ifs at h hupdate
      cases hread : s.object? k key.namespace key.name with
      | none => simp [hread] at h
      | some read =>
          rw [hread] at h hupdate
          dsimp only at h hupdate
          split at h
          · cases h
          · next hcurrent =>
              rw [hcurrent] at hupdate
              exact .update (congrArg Prod.fst hupdate)

/-- What is put in gets the next version. -/
theorem putsIn_iff (hs : s.Sound) :
    s.PutsIn key version b ↔ s.Puts key b ∧ version = s.lastVersion + 1 := by
  refine and_congr_right fun hputs => ?_
  obtain ⟨⟨put, hput, hnext⟩, -⟩ := hs.object?_perform_of_puts hputs
  constructor
  · rintro ⟨live, hlive, hversion⟩
    obtain rfl : put = live := Option.some.inj (hput.symm.trans hlive)
    exact versionText_injective (Option.some.inj (hversion.symm.trans hnext))
  · rintro rfl
    exact ⟨put, hput, hnext⟩

end Sound

/-- A call that fails leaves the objects as they were, and the version number too unless it is an
insert of an object without a namespace, which skips one number.  What is put in next is the same
as if there had been no such call, in a version that is later by what was skipped. -/
theorem failed_call_keeps_objects (hs : s.Reachable) (h : s.Fails a e) :
    (s.perform a).objects = s.objects ∧
      (s.perform a).lastVersion = s.lastVersion + a.skipped ∧
      (∀ (k : Kind) (o : k.Object), a = .insert k o →
        e = .missingNamespace k (k.objectName o)) ∧
      ∀ key b version,
        (s.perform a).PutsIn key (version + a.skipped) b ↔ s.PutsIn key version b := by
  have hsound := hs.sound
  have hsound' : (s.perform a).Sound := hsound.perform a
  have hleft := hsound.clearCalls_perform_of_fails h
  have hobjects : (s.perform a).objects = s.objects := (congrArg MemoryStore.objects hleft :)
  have hfailing : (s.perform a).failing = s.failing := (congrArg MemoryStore.failing hleft :)
  have hversion : (s.perform a).lastVersion = s.lastVersion + a.skipped :=
    (congrArg MemoryStore.lastVersion hleft :)
  refine ⟨hobjects, hversion, ?_, fun key b version => ?_⟩
  · rintro k o rfl
    cases h with
    | insert h => exact (insert_of_error h).1
  · have hputs : (s.perform a).Puts key b ↔ s.Puts key b :=
      ⟨hsound'.puts_congr hsound hobjects hfailing,
        hsound.puts_congr hsound' hobjects.symm hfailing.symm⟩
    rw [hsound'.putsIn_iff, hsound.putsIn_iff, hputs, hversion]
    refine and_congr_right fun _ => ?_
    omega

/-- A setting that was changed once since its first version was read. -/
def changedStore : MemoryStore :=
  performAll [.create .configMap (edited "nobody"), .update .configMap (edited "ann")] {}

theorem changedStore_keeps_objects :
    changedStore.Fails (.update .configMap (edited "ben"))
        (.conflict ⟨.configMap, "apis", "shared"⟩ "1") ∧
      (changedStore.perform (.update .configMap (edited "ben"))).objects = changedStore.objects ∧
      (changedStore.perform (.update .configMap (edited "ben"))).lastVersion = 2 := by
  have hreachable : changedStore.Reachable := Reachable.empty.performAll _
  have hfails : changedStore.Fails (.update .configMap (edited "ben"))
      (.conflict ⟨.configMap, "apis", "shared"⟩ "1") := .update rfl
  obtain ⟨hobjects, hversion, -, -⟩ := failed_call_keeps_objects hreachable hfails
  exact ⟨hfails, hobjects, hversion⟩

/-- An insert of an object without a namespace fails and takes a version number. -/
theorem failed_insert_takes_version :
    ¬ ∀ (s : MemoryStore) (a : StoreAction) (e : StoreError), s.Reachable → s.Fails a e →
      (s.perform a).objects = s.objects ∧ (s.perform a).lastVersion = s.lastVersion := by
  intro h
  let unplaced : ConfigMap := { metadata := { name := some "settings" } }
  have hkept := h {} (.insert .configMap unplaced) _ .empty (.insert rfl)
  exact absurd hkept.2 (by decide)

end MemoryStore

end ApiPlatform
