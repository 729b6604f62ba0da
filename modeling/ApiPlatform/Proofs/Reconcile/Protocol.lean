import ApiPlatform.Proofs.Reconcile.MinimalCopy
import ApiPlatform.Proofs.Reconcile.Stages
import ApiPlatform.Proofs.Store.Transcript
/-!
# What a run for one object asks of a store

Whatever a store answers, a run looks once and then writes once or not at all, and the answer that
it got last decides how it ends (`ManagedKind.reconcile_protocol`).
-/

namespace ApiPlatform

/-- Copying finds nothing to do exactly where no significant field differs. -/
theorem ManagedKind.copyOnto_snd_eq_nil_iff_not_differs (m : ManagedKind)
    (wanted live : m.kind.Object) :
    (m.copyOnto wanted live).2 = [] ↔ ∀ f, ¬ m.Differs wanted live f := by
  simp only [List.eq_nil_iff_forall_not_mem, m.mem_copyOnto_iff wanted live]

namespace WantedObject

variable {w : WantedObject} {live : w.kind.kind.Object}

theorem run_reconcile_of_namespace_eq_none
    (h : (w.kind.kind.metadata w.object).namespace = none) :
    w.reconcile.run =
      .done (.error (.missingNamespace w.kind.kind (w.kind.kind.objectName w.object))) := by
  have hns : w.kind.kind.namespaceOf w.object =
      .error (.missingNamespace w.kind.kind (w.kind.kind.objectName w.object)) := by
    rw [Kind.namespaceOf, h]
  unfold reconcile ManagedKind.reconcile
  rw [hns]
  rfl

theorem looked_of_not_differs (h : ∀ f, ¬ w.kind.Differs w.object live f) :
    w.looked (.ok (some live)) = .done (.ok .unchanged) :=
  if_pos ((w.kind.copyOnto_snd_eq_nil_iff_not_differs w.object live).2 h)

theorem looked_of_differs (h : ∃ f, w.kind.Differs w.object live f) :
    w.looked (.ok (some live)) = w.updating live := by
  obtain ⟨f, hf⟩ := h
  refine if_neg fun hnil => ?_
  exact (w.kind.copyOnto_snd_eq_nil_iff_not_differs w.object live).1 hnil f hf

end WantedObject

/-- One run against any store, whatever that answers. -/
theorem ManagedKind.reconcile_protocol {σ : Type} (store : ObjectStore σ) (s : σ)
    (m : ManagedKind) (wanted : m.kind.Object) :
    ((m.kind.metadata wanted).namespace = none →
      store.converse (m.reconcile wanted).run s =
        ([], .error (.missingNamespace m.kind (m.kind.objectName wanted)), s)) ∧
    ∀ ns name, (m.kind.metadata wanted).namespace = some ns → m.kind.objectName wanted = name →
      (∀ e s₁, store.get s m.kind ns name = (.error e, s₁) →
        store.converse (m.reconcile wanted).run s =
          ([.get m.kind ns name (.error e)], .error e, s₁)) ∧
      (∀ s₁ answer s₂, store.get s m.kind ns name = (.ok none, s₁) →
        store.create s₁ m.kind wanted = (answer, s₂) →
          store.converse (m.reconcile wanted).run s =
            ([.get m.kind ns name (.ok none), .create m.kind wanted answer],
              answer.map fun _ => .created, s₂)) ∧
      ∀ live s₁, store.get s m.kind ns name = (.ok (some live), s₁) →
        ((∀ f, ¬ m.Differs wanted live f) →
          store.converse (m.reconcile wanted).run s =
            ([.get m.kind ns name (.ok (some live))], .ok .unchanged, s₁)) ∧
        ((∃ f, m.Differs wanted live f) →
          ∃ changed fields, m.MinimalCopy wanted live changed fields ∧
            (m.kind.metadata changed).resourceVersion = (m.kind.metadata live).resourceVersion ∧
            ∀ answer s₂, store.update s₁ m.kind changed = (answer, s₂) →
              store.converse (m.reconcile wanted).run s =
                ([.get m.kind ns name (.ok (some live)), .update m.kind changed answer],
                  answer.map fun _ => .updated, s₂)) := by
  let w : WantedObject := ⟨m, wanted⟩
  change ((m.kind.metadata wanted).namespace = none →
    store.converse w.reconcile.run s = _) ∧ _
  refine ⟨fun hnone => ?_, ?_⟩
  · rw [w.run_reconcile_of_namespace_eq_none hnone, ObjectStore.converse_done]
  rintro ns name hns rfl
  have hprogram : (m.reconcile wanted).run =
      .get m.kind ns (m.kind.objectName wanted) w.looked :=
    w.run_reconcile (by rw [Kind.namespaceOf, hns])
  rw [hprogram]
  -- What is left of the run after its look depends on the answer alone.
  refine ⟨fun e s₁ hget => ?_, fun s₁ answer s₂ hget hcreate => ?_, fun live s₁ hget =>
    ⟨fun hsame => ?_, fun hdiffers => ?_⟩⟩
  · have hlooked : w.looked (.error e) = .done (.error e) := rfl
    rw [ObjectStore.converse_get hget, hlooked, ObjectStore.converse_done]
  · have hlooked : w.looked (.ok none) = w.creating := rfl
    rw [ObjectStore.converse_get hget, hlooked, WantedObject.creating,
      ObjectStore.converse_create hcreate, ObjectStore.converse_done]
  · have hlooked := w.looked_of_not_differs hsame
    rw [ObjectStore.converse_get hget, hlooked, ObjectStore.converse_done]
  · have hcopy := m.minimalCopy_copyOnto wanted live
    have hversion := congrArg ObjectMeta.resourceVersion hcopy.metadata
    have hlooked := w.looked_of_differs hdiffers
    refine ⟨_, _, hcopy, hversion, fun answer s₂ hupdate => ?_⟩
    rw [ObjectStore.converse_get hget, hlooked, WantedObject.updating,
      ObjectStore.converse_update hupdate, ObjectStore.converse_done]

end ApiPlatform
