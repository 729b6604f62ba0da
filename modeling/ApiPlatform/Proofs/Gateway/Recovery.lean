import ApiPlatform.Proofs.Gateway.Convergence
/-!
# Gateways recover

Runs may be stopped anywhere by injected failures.  What they leave is the contents that they
found, or a store on the way of undisturbed runs, so that undisturbed runs still come to where they
would have come in the first place, version numbers and identifiers included.
-/

namespace ApiPlatform.Gateway

variable {g : Gateway} {ns name : String} {s t t' u : MemoryStore}

/-- Runs from one store on end done for the first time in another one. -/
inductive Completes (ns name : String) : MemoryStore → MemoryStore → Prop
  | done {s : MemoryStore} : (s.exec (reconcile ns name)).1 = .ok .done →
      Completes ns name s (s.exec (reconcile ns name)).2
  | again {s t : MemoryStore} : (s.exec (reconcile ns name)).1 ≠ .ok .done →
      Completes ns name (s.exec (reconcile ns name)).2 t → Completes ns name s t

/-- The store after one run for each set of operations, which are told to fail during it. -/
def disturbed (ns name : String) : List (List Operation) → MemoryStore → MemoryStore
  | [], s => s
  | ops :: rest, s => disturbed ns name rest ((s.refusing ops).exec (reconcile ns name)).2

namespace Completes

theorem unique (h : Completes ns name s t) (h' : Completes ns name s t') : t = t' := by
  induction h with
  | done hdone =>
      cases h' with
      | done _ => rfl
      | again hagain _ => exact absurd hdone hagain
  | again hagain _ ih =>
      cases h' with
      | done hdone => exact absurd hdone hagain
      | again _ hrest => exact ih hrest

/-- Stores of the same contents are completed with the same contents. -/
theorem congr (h : Completes ns name s t) (hs : s.failing = []) (hu : u.failing = [])
    (hsu : s.contents = u.contents) :
    ∃ t', Completes ns name u t' ∧ t'.contents = t.contents := by
  induction h generalizing u with
  | @done s hdone =>
      obtain ⟨hresult, hcontents⟩ :=
        MemoryStore.run_congr_contents hsu hs hu (reconcile ns name).run
      exact ⟨_, .done (hresult.symm.trans hdone), hcontents.symm⟩
  | @again s t hagain _ ih =>
      obtain ⟨hresult, hcontents⟩ :=
        MemoryStore.run_congr_contents hsu hs hu (reconcile ns name).run
      obtain ⟨t', ht', hcontents'⟩ := ih ((MemoryStore.failing_run _).trans hs)
        ((MemoryStore.failing_run _).trans hu) hcontents
      exact ⟨t', .again (fun heq => hagain (hresult.trans heq)) ht', hcontents'⟩

theorem of_done (h : Completes ns name s t) (hdone : (s.exec (reconcile ns name)).1 = .ok .done) :
    t = (s.exec (reconcile ns name)).2 := h.unique (.done hdone)

theorem of_not_done (h : Completes ns name s t)
    (hagain : (s.exec (reconcile ns name)).1 ≠ .ok .done) :
    Completes ns name (s.exec (reconcile ns name)).2 t := by
  cases h with
  | done hdone => exact absurd hdone hagain
  | again _ hrest => exact hrest

/-- After some of its objects were placed, a gateway is still completed with the same contents. -/
theorem placed {objects : DesiredObjects} (h : Completes ns name (s.refusing []) t)
    (hg : g.Hosted ns name s) (hlacks : ¬ g.spec.lacksDefaults)
    (hprepared : g.Prepared ns s objects) (n : Nat)
    (hu : u.contents = WantedObject.settleAll (objects.wanted.take n) s.contents) :
    ∃ t', Completes ns name (u.refusing []) t' ∧ t'.contents = t.contents := by
  obtain ⟨hdone, hcontents⟩ := exec_of_prepared (hg.refusing []) rfl hlacks
    (hprepared.of_contents_eq rfl)
  obtain ⟨c, -, hobjects⟩ := id hprepared
  obtain ⟨hdone', hcontents'⟩ := exec_of_prepared ((hg.placed hobjects n hu).refusing [])
    rfl hlacks ((hprepared.placed hg n hu).of_contents_eq rfl)
  refine ⟨_, .done hdone', ?_⟩
  have hsound : s.contents.Sound := hg.sound.of_contents_eq rfl
  rw [h.of_done hdone, hcontents, hcontents', MemoryStore.contents_refusing,
    MemoryStore.contents_refusing, hu, WantedObject.settleAll_resume hsound
      (exists_storeKey_wanted hobjects) (pairwise_storeKey_wanted objects)]

/-- Nor does it matter what else becomes of one run. -/
theorem disturbed_once (h : Completes ns name (s.refusing []) t) (hg : g.Hosted ns name s)
    (ops : List Operation) :
    ∃ g', Hosted g' ns name ((s.refusing ops).exec (reconcile ns name)).2 ∧
      ∃ t', Completes ns name
          (((s.refusing ops).exec (reconcile ns name)).2.refusing []) t' ∧
        t'.contents = t.contents := by
  have hran := ran_reconcile (hg.refusing ops)
  generalize ((s.refusing ops).exec (reconcile ns name)).1 = r at hran
  generalize ((s.refusing ops).exec (reconcile ns name)).2 = u at hran ⊢
  have hunchanged (hu : s.contents = u.contents) : ∃ g', Hosted g' ns name u ∧
      ∃ t', Completes ns name (u.refusing []) t' ∧ t'.contents = t.contents :=
    ⟨g, hg.of_contents_eq hu, h.congr rfl rfl hu⟩
  generalize hu : u.contents = v at hran
  cases hran with
  | getFails _ => exact hunchanged hu.symm
  | updateFails _ _ => exact hunchanged hu.symm
  | unprepared _ _ _ => exact hunchanged hu.symm
  | defaulted hlacks =>
      have hresult : ((s.refusing []).exec (reconcile ns name)).1 = .ok .needsRequeue :=
        (needsRequeue_iff (hg.refusing []) rfl).2 hlacks
      have hcontents := contents_of_needsRequeue (hg.refusing []) hresult
      refine ⟨_, hg.defaulted hu, ?_⟩
      exact (h.of_not_done (by simp [hresult])).congr (MemoryStore.failing_run _) rfl
        (hcontents.trans hu.symm)
  | stopped objects n _ _ hlacks hprepared _ =>
      have hprepared : g.Prepared ns s objects := hprepared.of_contents_eq rfl
      obtain ⟨c, -, hobjects⟩ := id hprepared
      exact ⟨g, hg.placed hobjects n hu, h.placed hg hlacks hprepared n hu⟩
  | done objects hlacks hprepared =>
      have hprepared : g.Prepared ns s objects := hprepared.of_contents_eq rfl
      have hall : u.contents =
          WantedObject.settleAll (objects.wanted.take objects.wanted.length) s.contents := by
        rw [hu, List.take_length, MemoryStore.contents_refusing]
      obtain ⟨c, -, hobjects⟩ := id hprepared
      exact ⟨g, hg.placed hobjects _ hall, h.placed hg hlacks hprepared _ hall⟩

theorem disturbed (h : Completes ns name (s.refusing []) t) (hg : g.Hosted ns name s)
    (failures : List (List Operation)) :
    ∃ t', Completes ns name ((Gateway.disturbed ns name failures s).refusing []) t' ∧
      t'.contents = t.contents := by
  induction failures generalizing g s t with
  | nil => exact ⟨t, h, rfl⟩
  | cons ops rest ih =>
      obtain ⟨g', hg', u, hu, hcontents⟩ := h.disturbed_once hg ops
      obtain ⟨t', ht', hcontents'⟩ := ih hu hg'
      exact ⟨t', ht', hcontents'.trans hcontents⟩

end Completes

/-- Runs that are stopped by failures, any number of them and each by any operations, do not
change where undisturbed runs come to. -/
theorem completes_after_failures (hs : s.Reachable)
    (hg : s.peek .gateway ns name = .ok (some g))
    (hurl : g.spec.adminPortal.url.name ≠ g.endpointSecretName)
    (htoken : g.spec.adminPortal.accessToken.name ≠ g.endpointSecretName)
    (hdone : Completes ns name (s.refusing []) t) (failures : List (List Operation)) :
    (∃ t', Completes ns name ((disturbed ns name failures s).refusing []) t') ∧
      ∀ t', Completes ns name ((disturbed ns name failures s).refusing []) t' →
        t'.objects = t.objects ∧ t'.lastVersion = t.lastVersion := by
  obtain ⟨t', ht', hcontents⟩ := hdone.disturbed (Hosted.of_peek hs hg ⟨hurl, htoken⟩) failures
  refine ⟨⟨t', ht'⟩, fun t'' ht'' => ?_⟩
  rw [ht''.unique ht']
  exact MemoryStore.contents_eq_iff.1 hcontents

/-- One run is stopped at its first write, and a second one at its first read. -/
theorem portalStore_completes :
    Completes "apis" "edge" (portalStore.refusing [])
        (portalStore.exec (reconcile "apis" "edge")).2 ∧
      ∃ t, Completes "apis" "edge"
        ((disturbed "apis" "edge" [[.create], [.get, .update]] portalStore).refusing []) t := by
  have hdone : Completes "apis" "edge" (portalStore.refusing [])
      (portalStore.exec (reconcile "apis" "edge")).2 := .done reconcile_portalStore
  exact ⟨hdone, (completes_after_failures reachable_portalStore peek_portalStore (by decide)
    (by decide) hdone [[.create], [.get, .update]]).1⟩

end ApiPlatform.Gateway
