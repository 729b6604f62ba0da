import ApiPlatform.Proofs.Reconcile.Settling
import ApiPlatform.Proofs.Store.Interleaving
/-!
# The stages of a run

A run for an object looks, and then writes once or not at all.  While other runs do the same to one
store, a run that succeeds takes effect at a single call: its write, or its look if there was
nothing to write (`WantedObject.Stage.progress`).  At that call the store is as the run believes it
to be, since no version number is given out twice (`WantedObject.Known`).
-/

namespace ApiPlatform.WantedObject

variable {w w' : WantedObject} {key key' : StoreKey} {s t : MemoryStore}

/-- What is left of a run that found nothing. -/
def creating (w : WantedObject) : StoreProgram (Except StoreError ObjectOutcome) :=
  .create w.kind.kind w.object fun answer => .done (answer.map fun _ => .created)

/-- What is left of a run that found an object with other values. -/
def updating (w : WantedObject) (live : w.kind.kind.Object) :
    StoreProgram (Except StoreError ObjectOutcome) :=
  .update w.kind.kind (w.kind.copyOnto w.object live).1 fun answer =>
    .done (answer.map fun _ => .updated)

/-- What is left of a run that has looked. -/
def looked (w : WantedObject) :
    Except StoreError (Option w.kind.kind.Object) → StoreProgram (Except StoreError ObjectOutcome)
  | .error e => .done (.error e)
  | .ok none => w.creating
  | .ok (some live) =>
    if (w.kind.copyOnto w.object live).2 = [] then .done (.ok .unchanged) else w.updating live

theorem run_reconcile {ns : String} (hns : w.kind.kind.namespaceOf w.object = .ok ns) :
    w.reconcile.run = .get w.kind.kind ns (w.kind.kind.objectName w.object) w.looked := by
  unfold reconcile ManagedKind.reconcile
  rw [hns]
  refine congrArg (StoreProgram.get _ _ _) (funext fun answer => ?_)
  rcases answer with e | _ | live
  · rfl
  · refine congrArg (StoreProgram.create _ _) (funext fun answer => ?_)
    rcases answer with e | o <;> rfl
  · rcases hcopy : w.kind.copyOnto w.object live with ⟨changed, _ | ⟨field, fields⟩⟩
    · simp only [StoreProgram.bind, ExceptT.bindCont, looked, hcopy]
      rfl
    · simp only [StoreProgram.bind, ExceptT.bindCont, looked, hcopy, updating]
      rw [if_neg (List.cons_ne_nil _ _)]
      refine congrArg (StoreProgram.update _ _) (funext fun answer => ?_)
      rcases answer with e | o <;> rfl

/-- It looks once, and writes once at most. -/
theorem endsWithin_reconcile (hkey : w.storeKey = .ok key) : w.reconcile.run.EndsWithin 2 := by
  obtain ⟨ns, hns, -⟩ := Kind.storeKey_cases hkey
  rw [run_reconcile hns]
  refine .get fun answer => ?_
  rcases answer with e | _ | live
  · exact .done _
  · exact .create fun _ => .done _
  · by_cases hcopy : (w.kind.copyOnto w.object live).2 = []
    · simp only [looked, hcopy, if_true]
      exact .done _
    · simp only [looked, hcopy, if_false]
      exact .update fun _ => .done _

theorem reconcile_ne_done (hkey : w.storeKey = .ok key) (r : Except StoreError ObjectOutcome) :
    w.reconcile.run ≠ .done r := by
  obtain ⟨ns, hns, -⟩ := Kind.storeKey_cases hkey
  rw [run_reconcile hns]
  intro h
  cases h

@[simp] theorem creating_ne_done (r : Except StoreError ObjectOutcome) : w.creating ≠ .done r := by
  intro h
  cases h

@[simp] theorem updating_ne_done (live : w.kind.kind.Object)
    (r : Except StoreError ObjectOutcome) : w.updating live ≠ .done r := by
  intro h
  cases h

theorem step_reconcile (hs : s.Sound) (hget : .get ∉ s.failing) (hkey : w.storeKey = .ok key) :
    s.step w.reconcile.run = (w.looked (.ok (w.live? key s)), s.record .get key) := by
  obtain ⟨ns, hns, rfl⟩ := Kind.storeKey_cases hkey
  rw [run_reconcile hns, MemoryStore.step, hs.get_eq, if_neg hget]
  rfl

theorem step_creating (hs : s.Sound) (hcreate : .create ∉ s.failing)
    (hkey : w.storeKey = .ok key) :
    s.step w.creating =
      if (w.live? key s).isSome then
        (.done (.error (.alreadyExists key)), s.record .create key)
      else
        (.done (.ok .created), (s.record .create key).write w.kind.kind key w.object) := by
  rw [creating, MemoryStore.step, hs.create_eq hkey, if_neg hcreate]
  unfold live?
  split_ifs <;> rfl

/-! ## What a run believes -/

/-- The object was stored under the key, and if something else is now, its version tells. -/
structure Known (w : WantedObject) (key : StoreKey) (live : w.kind.kind.Object)
    (s : MemoryStore) : Prop where
  storeKey : w.kind.kind.storeKey live = .ok key
  version : ∃ v ≤ s.lastVersion,
    (w.kind.kind.metadata live).resourceVersion = some (MemoryStore.versionText v)
  current : ∃ now, w.live? key s = some now ∧ (now = live ∨
    (w.kind.kind.metadata now).resourceVersion ≠ (w.kind.kind.metadata live).resourceVersion)

theorem Known.of_live? {live : w.kind.kind.Object} (hs : s.Sound) (hkey : w.storeKey = .ok key)
    (hlive : w.live? key s = some live) : w.Known key live s where
  storeKey := storeKey_of_live? hs hkey hlive
  version := by
    obtain ⟨v, -, hv, hversion⟩ := (hs.keeps hlive).version
    exact ⟨v, hv, hversion⟩
  current := ⟨live, hlive, .inl rfl⟩

/-- Every write takes a new version. -/
theorem Known.write {live : w.kind.kind.Object} {k : Kind} {o : k.Object}
    (h : w.Known key live s) (ho : k.storeKey o = .ok key') :
    w.Known key live (s.write k key' o) := by
  obtain ⟨v, hv, hversion⟩ := h.version
  refine ⟨h.storeKey, ⟨v, Nat.le_succ_of_le hv, hversion⟩, ?_⟩
  obtain ⟨hkind, -, -⟩ := Kind.storeKey_eq_ok.1 h.storeKey
  by_cases heq : key' = key
  · subst heq
    obtain ⟨hkind', -, -⟩ := Kind.storeKey_eq_ok.1 ho
    obtain rfl : k = w.kind.kind := hkind'.symm.trans hkind
    refine ⟨_, MemoryStore.object?_write_self ho, .inr ?_⟩
    rw [MemoryStore.metadata_keptObject, hversion]
    intro hsame
    have := MemoryStore.versionText_injective (Option.some.inj hsame)
    omega
  · obtain ⟨now, hnow, hcurrent⟩ := h.current
    refine ⟨now, ?_, hcurrent⟩
    rw [live?, MemoryStore.object?_write_of_ne, ← live?, hnow]
    rintro rfl
    exact heq (by rw [← hkind])

theorem Known.settle {live : w.kind.kind.Object} (h : w.Known key live s) (hs : s.Sound)
    (hkey' : w'.storeKey = .ok key') : w.Known key live (w'.settle s) := by
  obtain hsame | ⟨o, ho, hwrite⟩ := settle_cases hs hkey'
  · rwa [hsame]
  · rw [hwrite]
    exact h.write ho

theorem Known.of_contents_eq {live : w.kind.kind.Object} (h : w.Known key live s)
    (hst : s.contents = t.contents) : w.Known key live t := by
  have hcontents : w.Known key live s.contents := ⟨h.storeKey, h.version, h.current⟩
  rw [hst] at hcontents
  exact ⟨hcontents.storeKey, hcontents.version, hcontents.current⟩

theorem step_updating {live : w.kind.kind.Object} (hs : s.Sound) (hupdate : .update ∉ s.failing)
    (hkey : w.storeKey = .ok key) (h : w.Known key live s) :
    (w.live? key s = some live ∧
        s.step (w.updating live) =
          (.done (.ok .updated), (s.record .update key).write w.kind.kind key
            (w.kind.copyOnto w.object live).1)) ∨
      ∃ stale, s.step (w.updating live) =
        (.done (.error (.conflict key stale)), s.record .update key) := by
  obtain ⟨now, hnow, rfl | hstale⟩ := h.current
  · refine .inl ⟨hnow, ?_⟩
    rw [updating, MemoryStore.step, update_copyOnto hs hkey hnow, if_neg hupdate]
    rfl
  · obtain ⟨v, -, hversion⟩ := h.version
    obtain ⟨v', -, -, hversion'⟩ := (hs.keeps hnow).version
    refine .inr ⟨MemoryStore.versionText v, ?_⟩
    have hne : MemoryStore.versionText v ≠ MemoryStore.versionText v' := by
      intro heq
      rw [hversion, heq] at hstale
      exact hstale hversion'
    have hfilter : (w.kind.kind.metadata (w.kind.copyOnto w.object live).1).resourceVersion.filter
        (· ≠ (w.kind.kind.metadata now).resourceVersion.getD "") =
          some (MemoryStore.versionText v) := by
      rw [ManagedKind.metadata_copyOnto, hversion, hversion', Option.getD_some]
      simp [hne]
    unfold live? at hnow
    rw [updating, MemoryStore.step, hs.update_eq (storeKey_copyOnto _ _ h.storeKey),
      if_neg hupdate, hnow]
    dsimp only
    rw [hfilter]
    rfl

/-! ## The effect of a run -/

/-- What a run says if nothing comes between. -/
def outcome (w : WantedObject) (key : StoreKey) (s : MemoryStore) : ObjectOutcome :=
  match w.live? key s with
  | none => .created
  | some live => if (w.kind.copyOnto w.object live).2 = [] then .unchanged else .updated

theorem outcome_of_inPlace (h : w.InPlace key s) : w.outcome key s = .unchanged := by
  obtain ⟨live, hlive, hagrees⟩ := h
  simp only [outcome, hlive, (w.kind.copyOnto_snd_eq_nil_iff w.object live).2 hagrees, if_true]

theorem outcome_of_not_agrees {live : w.kind.kind.Object} (hlive : w.live? key s = some live)
    (hdiffers : ¬ w.kind.Agrees w.object live) : w.outcome key s = .updated := by
  simp only [outcome, hlive, w.kind.copyOnto_snd_eq_nil_iff w.object live, hdiffers, if_false]

theorem outcome_of_contents_eq (hst : s.contents = t.contents) :
    w.outcome key s = w.outcome key t := by
  simp only [outcome, live?, MemoryStore.object?_of_contents_eq hst]

/-- A run that nothing interferes with. -/
theorem exec_reconcile (hs : s.Sound) (hfailing : s.failing = []) (hkey : w.storeKey = .ok key) :
    (s.exec w.reconcile).1 = .ok (w.outcome key s) ∧
      (s.exec w.reconcile).2.contents = w.settle s.contents := by
  have hran := ran_reconcile hs hkey
  rw [← contents_settle]
  generalize (s.exec w.reconcile).2 = t at hran ⊢
  generalize (s.exec w.reconcile).1 = r at hran ⊢
  cases hran with
  | getFails hop => simp [hfailing] at hop
  | createFails _ hop _ => simp [hfailing] at hop
  | created _ _ hlive =>
      rw [settle_of_live?_eq_none hkey hlive]
      exact ⟨by simp only [outcome, hlive], rfl⟩
  | unchanged _ hplace =>
      rw [settle_of_inPlace hkey hplace, outcome_of_inPlace hplace]
      exact ⟨rfl, rfl⟩
  | updateFails _ _ hop _ _ => simp [hfailing] at hop
  | updated live _ _ hlive hdiffers =>
      rw [settle_of_not_agrees hkey hlive hdiffers, outcome_of_not_agrees hlive hdiffers]
      exact ⟨rfl, rfl⟩

/-! ## Stages of a run -/

/-- Why a run can fail in a store that refuses nothing: another one came before it. -/
inductive Overtaken : StoreError → Prop
  | alreadyExists (key : StoreKey) : Overtaken (.alreadyExists key)
  | conflict (key : StoreKey) (stale : String) : Overtaken (.conflict key stale)

/-- Where a run may stand in a store. -/
inductive Stage (w : WantedObject) (key : StoreKey) (s : MemoryStore) :
    StoreProgram (Except StoreError ObjectOutcome) → Prop
  | start : Stage w key s w.reconcile.run
  | creating : Stage w key s w.creating
  | updating (live : w.kind.kind.Object) : w.Known key live s →
      ¬ w.kind.Agrees w.object live → Stage w key s (w.updating live)
  | succeeded (o : ObjectOutcome) : Stage w key s (.done (.ok o))
  | failed (e : StoreError) : Overtaken e → Stage w key s (.done (.error e))

variable {p p' : StoreProgram (Except StoreError ObjectOutcome)}

/-- What other runs do to a store leaves a run at its stage. -/
theorem Stage.settle (h : w.Stage key s p) (hs : s.Sound) (hkey' : w'.storeKey = .ok key')
    (ht : t.contents = w'.settle s.contents) : w.Stage key t p := by
  cases h with
  | start => exact .start
  | creating => exact .creating
  | updating live hknown hdiffers =>
      refine .updating live ((hknown.settle hs hkey').of_contents_eq ?_) hdiffers
      rw [ht, contents_settle]
  | succeeded o => exact .succeeded o
  | failed e he => exact .failed e he

theorem Stage.of_contents_eq (h : w.Stage key s p) (hst : s.contents = t.contents) :
    w.Stage key t p := by
  cases h with
  | start => exact .start
  | creating => exact .creating
  | updating live hknown hdiffers => exact .updating live (hknown.of_contents_eq hst) hdiffers
  | succeeded o => exact .succeeded o
  | failed e he => exact .failed e he

theorem Stage.overtaken {e : StoreError} (h : w.Stage key s p) (hkey : w.storeKey = .ok key)
    (hp : p = .done (.error e)) : Overtaken e := by
  cases h with
  | start => exact absurd hp (reconcile_ne_done hkey _)
  | creating => exact absurd hp (creating_ne_done _)
  | updating live _ _ => exact absurd hp (updating_ne_done live _)
  | succeeded o => simp at hp
  | failed e' he =>
      cases hp
      exact he

/-- What one step does: nothing to the contents of the store, or all that its run does. -/
inductive Progress (w : WantedObject) (key : StoreKey) (s : MemoryStore)
    (p : StoreProgram (Except StoreError ObjectOutcome)) :
    StoreProgram (Except StoreError ObjectOutcome) → MemoryStore → Prop
  | silent {p' : StoreProgram (Except StoreError ObjectOutcome)} {t : MemoryStore} :
      t.contents = s.contents → w.Stage key t p' →
      (∀ o, p' = .done (.ok o) ↔ p = .done (.ok o)) → Progress w key s p p' t
  | effect {t : MemoryStore} : (∀ o, p ≠ .done (.ok o)) → t.contents = w.settle s.contents →
      Progress w key s p (.done (.ok (w.outcome key s))) t

theorem Stage.progress (h : w.Stage key s p) (hs : s.Sound) (hfailing : s.failing = [])
    (hkey : w.storeKey = .ok key) : w.Progress key s p (s.step p).1 (s.step p).2 := by
  cases h with
  | start =>
      have hrunning := reconcile_ne_done hkey
      rw [step_reconcile hs (by simp [hfailing]) hkey]
      cases hlive : w.live? key s with
      | none => exact .silent rfl .creating (by simp [looked, hrunning])
      | some live =>
          by_cases hagrees : w.kind.Agrees w.object live
          · have hplace : w.InPlace key s := ⟨live, hlive, hagrees⟩
            have hnil := (w.kind.copyOnto_snd_eq_nil_iff w.object live).2 hagrees
            simp only [looked, hnil, if_true]
            rw [← outcome_of_inPlace hplace]
            refine .effect (fun o => hrunning (.ok o)) ?_
            rw [← contents_settle, settle_of_inPlace hkey hplace]
            rfl
          · have hcons := mt (w.kind.copyOnto_snd_eq_nil_iff w.object live).1 hagrees
            simp only [looked, hcons, if_false]
            exact .silent rfl (.updating live (.of_live? (hs.record _ _) hkey hlive) hagrees)
              (by simp [hrunning])
  | creating =>
      rw [step_creating hs (by simp [hfailing]) hkey]
      cases hlive : w.live? key s with
      | none =>
          rw [if_neg (by simp)]
          have hcreated : w.outcome key s = .created := by simp only [outcome, hlive]
          rw [← hcreated]
          refine .effect (by simp) ?_
          rw [← contents_settle, settle_of_live?_eq_none hkey hlive]
          rfl
      | some live =>
          rw [if_pos (by simp)]
          exact .silent rfl (.failed _ (.alreadyExists key)) (by simp)
  | updating live hknown hdiffers =>
      obtain ⟨hlive, hstep⟩ | ⟨stale, hstep⟩ := step_updating hs (by simp [hfailing]) hkey hknown
      · rw [hstep, ← outcome_of_not_agrees hlive hdiffers]
        refine .effect (by simp) ?_
        rw [← contents_settle, settle_of_not_agrees hkey hlive hdiffers]
        rfl
      · rw [hstep]
        exact .silent rfl (.failed _ (.conflict key stale)) (by simp)
  | succeeded o => exact .silent rfl (.succeeded o) fun o => Iff.rfl
  | failed e he => exact .silent rfl (.failed e he) fun o => Iff.rfl

end ApiPlatform.WantedObject
