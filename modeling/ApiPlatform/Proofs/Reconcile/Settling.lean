import ApiPlatform.Proofs.Reconcile.Agreement
import ApiPlatform.Proofs.Store.Running
import ApiPlatform.Reconcile.Object
/-!
# One run for one object

`WantedObject.Ran` lists everything that a run for one object can do, with the store that it
leaves.  A run either fails and changes nothing, or does what `WantedObject.settle` says, after
which the object is in place (`WantedObject.InPlace`) and stays there while other keys are written.
-/

namespace ApiPlatform

/-- An object that is to be in a store, of one of the kinds that are kept in a wanted state. -/
structure WantedObject where
  kind : ManagedKind
  object : kind.kind.Object

namespace WantedObject

variable {w w' : WantedObject} {key key' : StoreKey} {s t : MemoryStore}

/-- The key under which the object belongs, if it states a namespace. -/
def storeKey (w : WantedObject) : Except StoreError StoreKey := w.kind.kind.storeKey w.object

/-- Brings the stored object in line. -/
def reconcile (w : WantedObject) : StoreM StoreError ObjectOutcome := w.kind.reconcile w.object

/-- The object that stands under the key. -/
def live? (w : WantedObject) (key : StoreKey) (s : MemoryStore) : Option w.kind.kind.Object :=
  s.object? w.kind.kind key.namespace key.name

/-- Some object stands under the key and agrees in every significant field. -/
def InPlace (w : WantedObject) (key : StoreKey) (s : MemoryStore) : Prop :=
  ∃ live, w.live? key s = some live ∧ w.kind.Agrees w.object live

/-- What a run may do to a store: result and store afterwards. -/
inductive Ran (w : WantedObject) (key : StoreKey) (s : MemoryStore) :
    Except StoreError ObjectOutcome → MemoryStore → Prop
  | getFails : .get ∈ s.failing → Ran w key s (.error (.injected .get)) (s.record .get key)
  | createFails : .get ∉ s.failing → .create ∈ s.failing → w.live? key s = none →
      Ran w key s (.error (.injected .create)) ((s.record .get key).record .create key)
  | created : .get ∉ s.failing → .create ∉ s.failing → w.live? key s = none →
      Ran w key s (.ok .created)
        (((s.record .get key).record .create key).write w.kind.kind key w.object)
  | unchanged : .get ∉ s.failing → w.InPlace key s →
      Ran w key s (.ok .unchanged) (s.record .get key)
  | updateFails (live : w.kind.kind.Object) : .get ∉ s.failing → .update ∈ s.failing →
      w.live? key s = some live → ¬ w.kind.Agrees w.object live →
      Ran w key s (.error (.injected .update)) ((s.record .get key).record .update key)
  | updated (live : w.kind.kind.Object) : .get ∉ s.failing → .update ∉ s.failing →
      w.live? key s = some live → ¬ w.kind.Agrees w.object live →
      Ran w key s (.ok .updated)
        (((s.record .get key).record .update key).write w.kind.kind key
          (w.kind.copyOnto w.object live).1)

theorem storeKey_copyOnto (m : ManagedKind) (wanted : m.kind.Object) {live : m.kind.Object}
    (h : m.kind.storeKey live = .ok key) : m.kind.storeKey (m.copyOnto wanted live).1 = .ok key :=
  Kind.storeKey_congr (by simp) (by simp) h

theorem storeKey_of_live? (hs : s.Sound) (hkey : w.storeKey = .ok key)
    {live : w.kind.kind.Object} (hlive : w.live? key s = some live) :
    w.kind.kind.storeKey live = .ok key := by
  obtain ⟨hkind, -, -⟩ := Kind.storeKey_eq_ok.1 hkey
  rw [(hs.keeps hlive).storeKey, ← hkind]

/-- Writing back what was read is refused for no other reason than an injected failure. -/
theorem update_copyOnto (hs : s.Sound) (hkey : w.storeKey = .ok key) {live : w.kind.kind.Object}
    (hlive : w.live? key s = some live) :
    s.update w.kind.kind (w.kind.copyOnto w.object live).1 =
      if .update ∈ s.failing then (.error (.injected .update), s.record .update key)
      else
        (.ok (MemoryStore.keptObject w.kind.kind (w.kind.copyOnto w.object live).1
            (s.lastVersion + 1)),
          (s.record .update key).write w.kind.kind key (w.kind.copyOnto w.object live).1) := by
  have hstoreKey := storeKey_copyOnto w.kind w.object (storeKey_of_live? hs hkey hlive)
  exact hs.update_current hstoreKey hlive (by simp) (by simp)

/-- Everything that a run can do. -/
theorem ran_reconcile (hs : s.Sound) (hkey : w.storeKey = .ok key) :
    w.Ran key s (s.exec w.reconcile).1 (s.exec w.reconcile).2 := by
  obtain ⟨ns, hns, rfl⟩ := Kind.storeKey_cases hkey
  have hread := hs.record .get ⟨w.kind.kind, ns, w.kind.kind.objectName w.object⟩
  unfold reconcile ManagedKind.reconcile
  rw [MemoryStore.exec_bind, MemoryStore.exec_ofExcept, hns]
  dsimp only
  rw [MemoryStore.exec_bind, MemoryStore.exec_get, hs.get_eq]
  by_cases hget : .get ∈ s.failing
  · rw [if_pos hget]
    exact .getFails hget
  rw [if_neg hget]
  dsimp only
  cases hlive : s.object? w.kind.kind ns (w.kind.kind.objectName w.object) with
  | none =>
      dsimp only
      rw [MemoryStore.exec_bind, MemoryStore.exec_create, hread.create_eq hkey]
      by_cases hcreate : .create ∈ s.failing
      · rw [if_pos (by simpa using hcreate)]
        exact .createFails hget hcreate hlive
      · rw [if_neg (by simpa using hcreate), if_neg (by simp [hlive])]
        exact .created hget hcreate hlive
  | some live =>
      dsimp only
      have hagrees := w.kind.copyOnto_snd_eq_nil_iff w.object live
      have hupdate := update_copyOnto hread hkey hlive
      rcases hcopy : w.kind.copyOnto w.object live with ⟨changed, _ | ⟨field, fields⟩⟩
      · exact .unchanged hget ⟨live, hlive, hagrees.1 (by rw [hcopy])⟩
      · have hdiffers : ¬ w.kind.Agrees w.object live := by
          rw [← hagrees, hcopy]
          exact List.cons_ne_nil _ _
        rw [hcopy] at hupdate
        dsimp only at hupdate ⊢
        rw [MemoryStore.exec_bind, MemoryStore.exec_update, hupdate]
        by_cases hfails : .update ∈ s.failing
        · rw [if_pos (by simpa using hfails)]
          exact .updateFails live hget hfails hlive hdiffers
        · rw [if_neg (by simpa using hfails)]
          have hran : w.Ran ⟨w.kind.kind, ns, w.kind.kind.objectName w.object⟩ s _ _ :=
            .updated live hget hfails hlive hdiffers
          rw [hcopy] at hran
          exact hran

/-! ## What a run achieves -/

/-- What a run does to a store that refuses nothing, apart from its calls. -/
def settle (w : WantedObject) (s : MemoryStore) : MemoryStore :=
  match w.storeKey with
  | .error _ => s
  | .ok key =>
    match w.live? key s with
    | none => s.write w.kind.kind key w.object
    | some live =>
      match w.kind.copyOnto w.object live with
      | (_, []) => s
      | (changed, _ :: _) => s.write w.kind.kind key changed

theorem settle_of_live?_eq_none (hkey : w.storeKey = .ok key) (hlive : w.live? key s = none) :
    w.settle s = s.write w.kind.kind key w.object := by
  simp only [settle, hkey, hlive]

theorem settle_of_inPlace (hkey : w.storeKey = .ok key) (h : w.InPlace key s) :
    w.settle s = s := by
  obtain ⟨live, hlive, hagrees⟩ := h
  have hnil := (w.kind.copyOnto_snd_eq_nil_iff w.object live).2 hagrees
  simp only [settle, hkey, hlive]
  split
  · rfl
  · next heq => simp [heq] at hnil

theorem settle_of_not_agrees (hkey : w.storeKey = .ok key) {live : w.kind.kind.Object}
    (hlive : w.live? key s = some live) (hdiffers : ¬ w.kind.Agrees w.object live) :
    w.settle s = s.write w.kind.kind key (w.kind.copyOnto w.object live).1 := by
  have hcons := mt (w.kind.copyOnto_snd_eq_nil_iff w.object live).1 hdiffers
  simp only [settle, hkey, hlive]
  split
  · next heq => simp [heq] at hcons
  · next heq => rw [heq]

/-- Settling writes once under the key of the object, or not at all. -/
theorem settle_cases (hs : s.Sound) (hkey : w.storeKey = .ok key) :
    w.settle s = s ∨
      ∃ o, w.kind.kind.storeKey o = .ok key ∧ w.settle s = s.write w.kind.kind key o := by
  cases hlive : w.live? key s with
  | none => exact .inr ⟨w.object, hkey, settle_of_live?_eq_none hkey hlive⟩
  | some live =>
      by_cases hagrees : w.kind.Agrees w.object live
      · exact .inl (settle_of_inPlace hkey ⟨live, hlive, hagrees⟩)
      · exact .inr ⟨_, storeKey_copyOnto _ _ (storeKey_of_live? hs hkey hlive),
          settle_of_not_agrees hkey hlive hagrees⟩

/-- A run that succeeds settles the object. -/
theorem Ran.settle {o : ObjectOutcome} (hkey : w.storeKey = .ok key) (h : w.Ran key s (.ok o) t) :
    t.clearCalls = (w.settle s).clearCalls := by
  cases h with
  | created _ _ hlive => rw [settle_of_live?_eq_none hkey hlive]; rfl
  | unchanged _ hplace => rw [settle_of_inPlace hkey hplace]; rfl
  | updated live _ _ hlive hdiffers => rw [settle_of_not_agrees hkey hlive hdiffers]; rfl

/-- A run that fails does so because it was told to, and changes nothing. -/
theorem Ran.fails {e : StoreError} (h : w.Ran key s (.error e) t) :
    t.clearCalls = s.clearCalls ∧ ∃ op ∈ s.failing, e = .injected op := by
  cases h with
  | getFails hop => exact ⟨rfl, .get, hop, rfl⟩
  | createFails _ hop _ => exact ⟨rfl, .create, hop, rfl⟩
  | updateFails live _ hop _ _ => exact ⟨rfl, .update, hop, rfl⟩

theorem settle_sound (hs : s.Sound) : (w.settle s).Sound := by
  cases hkey : w.storeKey with
  | error e => simpa [settle, hkey] using hs
  | ok key =>
      obtain hsame | ⟨o, ho, hwrite⟩ := settle_cases hs hkey
      · rwa [hsame]
      · rw [hwrite]
        exact hs.write ho

/-- Settling puts the object in place. -/
theorem inPlace_settle (hs : s.Sound) (hkey : w.storeKey = .ok key) :
    w.InPlace key (w.settle s) := by
  cases hlive : w.live? key s with
  | none =>
      rw [settle_of_live?_eq_none hkey hlive]
      exact ⟨_, MemoryStore.object?_write_self hkey,
        w.kind.agrees_keptObject _ (w.kind.agrees_refl _)⟩
  | some live =>
      by_cases hagrees : w.kind.Agrees w.object live
      · rw [settle_of_inPlace hkey ⟨live, hlive, hagrees⟩]
        exact ⟨live, hlive, hagrees⟩
      · rw [settle_of_not_agrees hkey hlive hagrees]
        exact ⟨_, MemoryStore.object?_write_self
            (storeKey_copyOnto _ _ (storeKey_of_live? hs hkey hlive)),
          w.kind.agrees_keptObject _ (w.kind.agrees_copyOnto _ _)⟩

/-- Settling writes under no key but that of the object. -/
theorem get?_settle_of_ne (hkey : w.storeKey = .ok key) (hne : key' ≠ key) :
    (w.settle s).objects.get? key' = s.objects.get? key' := by
  cases hlive : w.live? key s with
  | none => rw [settle_of_live?_eq_none hkey hlive, MemoryStore.get?_write, if_neg hne]
  | some live =>
      by_cases hagrees : w.kind.Agrees w.object live
      · rw [settle_of_inPlace hkey ⟨live, hlive, hagrees⟩]
      · rw [settle_of_not_agrees hkey hlive hagrees, MemoryStore.get?_write, if_neg hne]

/-- What settling does depends on nothing but the contents of a store. -/
theorem contents_settle : (w.settle s).contents = w.settle s.contents := by
  have hlive (key : StoreKey) : w.live? key s.contents = w.live? key s := rfl
  unfold settle
  simp only [hlive]
  split
  · rfl
  · split
    · rfl
    · split <;> rfl

/-! ## Several objects -/

/-- The object is in place under its own key. -/
def Settled (w : WantedObject) (s : MemoryStore) : Prop :=
  ∃ key, w.storeKey = .ok key ∧ w.InPlace key s

/-- What runs for several objects, one after the other, do to a store that refuses nothing. -/
def settleAll (ws : List WantedObject) (s : MemoryStore) : MemoryStore :=
  ws.foldl (fun s w => w.settle s) s

variable {ws : List WantedObject}

@[simp] theorem settleAll_nil : settleAll [] s = s := rfl

@[simp] theorem settleAll_cons : settleAll (w :: ws) s = settleAll ws (w.settle s) := rfl

theorem settleAll_append (ws ws' : List WantedObject) :
    settleAll (ws ++ ws') s = settleAll ws' (settleAll ws s) := List.foldl_append

theorem settleAll_sound (ws : List WantedObject) (hs : s.Sound) : (settleAll ws s).Sound := by
  induction ws generalizing s with
  | nil => exact hs
  | cons w ws ih => exact ih (settle_sound hs)

theorem contents_settleAll (ws : List WantedObject) :
    (settleAll ws s).contents = settleAll ws s.contents := by
  induction ws generalizing s with
  | nil => rfl
  | cons w ws ih => rw [settleAll_cons, ih, contents_settle, settleAll_cons]

theorem get?_settleAll (hne : ∀ w ∈ ws, ∃ key, w.storeKey = .ok key ∧ key' ≠ key) :
    (settleAll ws s).objects.get? key' = s.objects.get? key' := by
  induction ws generalizing s with
  | nil => rfl
  | cons w ws ih =>
      obtain ⟨⟨key, hkey, hkey'⟩, hws⟩ := List.forall_mem_cons.1 hne
      rw [settleAll_cons, ih hws, get?_settle_of_ne hkey hkey']

theorem settle_of_settled (h : w.Settled s) : w.settle s = s := by
  obtain ⟨key, hkey, hplace⟩ := h
  exact settle_of_inPlace hkey hplace

theorem settleAll_of_settled (h : ∀ w ∈ ws, w.Settled s) : settleAll ws s = s := by
  induction ws with
  | nil => rfl
  | cons w ws ih =>
      rw [List.forall_mem_cons] at h
      rw [settleAll_cons, settle_of_settled h.1, ih h.2]

theorem InPlace.of_get?_eq (h : w.InPlace key s) (hkey : w.storeKey = .ok key)
    (hget : t.objects.get? key = s.objects.get? key) : w.InPlace key t := by
  obtain ⟨hkind, -, -⟩ := Kind.storeKey_eq_ok.1 hkey
  obtain ⟨live, hlive, hagrees⟩ := h
  refine ⟨live, ?_, hagrees⟩
  rw [← hlive, live?, live?, MemoryStore.object?, MemoryStore.object?, ← hkind, hget]

/-- Objects of different keys do not get into each other's way. -/
theorem settled_settleAll (hs : s.Sound) (hkeys : ∀ w ∈ ws, ∃ key, w.storeKey = .ok key)
    (hdistinct : ws.Pairwise fun w w' => w.storeKey ≠ w'.storeKey) :
    ∀ w ∈ ws, w.Settled (settleAll ws s) := by
  induction ws generalizing s with
  | nil => simp
  | cons w ws ih =>
      obtain ⟨⟨key, hkey⟩, hrest⟩ := List.forall_mem_cons.1 hkeys
      obtain ⟨hne, hdistinct⟩ := List.pairwise_cons.1 hdistinct
      refine List.forall_mem_cons.2 ⟨⟨key, hkey, ?_⟩, ih (settle_sound hs) hrest hdistinct⟩
      rw [settleAll_cons]
      refine (inPlace_settle hs hkey).of_get?_eq hkey (get?_settleAll fun w' hw' => ?_)
      obtain ⟨key', hkey'⟩ := hrest w' hw'
      refine ⟨key', hkey', fun heq => hne w' hw' ?_⟩
      rw [hkey, hkey', heq]

/-- After the first few objects, all of them still come to where they would have come. -/
theorem settleAll_resume (hs : s.Sound) (hkeys : ∀ w ∈ ws, ∃ key, w.storeKey = .ok key)
    (hdistinct : ws.Pairwise fun w w' => w.storeKey ≠ w'.storeKey) (n : Nat) :
    settleAll ws (settleAll (ws.take n) s) = settleAll ws s := by
  have hdone : ∀ w ∈ ws.take n, w.Settled (settleAll (ws.take n) s) :=
    settled_settleAll hs (fun w hw => hkeys w (List.mem_of_mem_take hw))
      (hdistinct.sublist (List.take_sublist n ws))
  calc settleAll ws (settleAll (ws.take n) s)
      = settleAll (ws.take n ++ ws.drop n) (settleAll (ws.take n) s) := by
        rw [List.take_append_drop]
    _ = settleAll (ws.drop n) (settleAll (ws.take n) s) := by
        rw [settleAll_append, settleAll_of_settled hdone]
    _ = settleAll ws s := by rw [← settleAll_append, List.take_append_drop]

/-- Settling takes no object away. -/
theorem isSome_get?_settle (h : (s.objects.get? key').isSome) :
    ((w.settle s).objects.get? key').isSome := by
  cases hkey : w.storeKey with
  | error e => simpa only [settle, hkey] using h
  | ok key =>
      have hwrite (o : w.kind.kind.Object) :
          ((s.write w.kind.kind key o).objects.get? key').isSome := by
        rw [MemoryStore.get?_write]
        split_ifs
        · rfl
        · exact h
      simp only [settle, hkey]
      split
      · exact hwrite _
      · split
        · exact h
        · exact hwrite _

theorem isSome_get?_settleAll (ws : List WantedObject) (h : (s.objects.get? key').isSome) :
    ((settleAll ws s).objects.get? key').isSome := by
  induction ws generalizing s with
  | nil => exact h
  | cons w ws ih => exact ih (isSome_get?_settle h)

end WantedObject

end ApiPlatform
