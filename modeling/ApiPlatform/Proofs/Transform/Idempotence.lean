import ApiPlatform.Proofs.Transform.Availability
import ApiPlatform.Proofs.Transform.ProductImages
/-!
# Transforms that may be repeated

A transform that is run on its own result changes nothing more, neither in content nor in order.
For high availability that takes three facts about its parts, since the connection may be declared
as a database and so leave the bundle again: what is settled stays so, settling an object may wait
until the connection is put in, and a connection that leaves comes back to the end.
-/

namespace ApiPlatform

open ApiPlatform.Bundle (Step connectionKey revise runSteps runSteps_append)
open Catalog (HighAvailabilityOptions externalConnection)

namespace OrderedMap

variable {κ α : Type} [DecidableEq κ] {f : κ → α → α} {ks : List κ}

/-- The map without some keys. -/
def without (ks : List κ) (m : OrderedMap κ α) : OrderedMap κ α :=
  ⟨m.entries.filter (·.1 ∉ ks)⟩

omit [DecidableEq κ] in
theorem mapEntries_mapEntries_self (hf : ∀ k v, f k (f k v) = f k v) (m : OrderedMap κ α) :
    (m.mapEntries f).mapEntries f = m.mapEntries f := by
  simp only [mapEntries, List.map_map, Function.comp_def, hf]

theorem without_nil (m : OrderedMap κ α) : m.without [] = m := by
  simp [without]

theorem without_mapEntries (m : OrderedMap κ α) :
    (m.mapEntries f).without ks = (m.without ks).mapEntries f := by
  simp only [without, mapEntries, List.filter_map, Function.comp_def]

theorem without_without (m : OrderedMap κ α) : (m.without ks).without ks = m.without ks := by
  simp only [without, List.filter_filter, Bool.and_self]

/-- Writing a key that is taken out leaves no trace. -/
theorem without_insert (ks : List κ) (k : κ) (v : α) (m : OrderedMap κ α) :
    (m.insert k v).without ks =
      if k ∈ ks then m.without ks else (m.without ks).insert k v := by
  obtain ⟨es⟩ := m
  simp only [insert, without, ← apply_ite mk, mk.injEq]
  induction es with
  | nil => by_cases hk : k ∈ ks <;> simp [insertIn, hk]
  | cons e es ih =>
      rw [insertIn]
      by_cases he : e.1 = k
      · subst he
        by_cases hk : e.1 ∈ ks <;> simp [insertIn, hk]
      · rw [if_neg he, List.filter_cons, List.filter_cons, ih]
        by_cases hk : k ∈ ks <;> by_cases hks : e.1 ∈ ks <;> simp [insertIn, he, hk, hks]

theorem insert_insert (k : κ) (u v : α) (m : OrderedMap κ α) :
    (m.insert k u).insert k v = m.insert k v := by
  obtain ⟨es⟩ := m
  simp only [insert, mk.injEq]
  induction es with
  | nil => simp [insertIn]
  | cons e es ih => by_cases he : e.1 = k <;> simp [insertIn, he, ih]

end OrderedMap

namespace Bundle

variable {steps : List Step}

theorem objects_runSteps (hsteps : ∀ s ∈ steps, ∀ b, s.joiningKeys b = []) (b : Bundle) :
    (runSteps steps b).objects =
      (b.objects.without (steps.flatMap Step.leavingKeys)).mapEntries fun key =>
        revise key steps :=
  congrArg OrderedMap.mk (entries_runSteps hsteps b)

end Bundle

/-- A second run on its own result gives the same bundle. -/
def Transform.Idempotent (t : Transform) : Prop :=
  ∀ b, ∃ b', t.run b = .ok b' ∧ t.run b' = .ok b'

theorem Transform.idempotent_of_runSteps {t : Transform} {steps : Capabilities → List Step}
    (hrun : ∀ b, t.run b = .ok (runSteps (steps b.capabilities) b))
    (hsteps : ∀ b, runSteps (steps b.capabilities) (runSteps (steps b.capabilities) b) =
      runSteps (steps b.capabilities) b) : t.Idempotent := by
  intro b
  refine ⟨_, hrun b, ?_⟩
  rw [hrun, Bundle.capabilities_runSteps, hsteps]

/-! ## Product images -/

theorem Productized.runSteps_again (o : ProductizedOptions) (b : Bundle) :
    runSteps (steps o b.capabilities) (runSteps (steps o b.capabilities) b) =
      runSteps (steps o b.capabilities) b := by
  have hagain := effect_iff.1 (effect_iff.2 rfl : Effect o.release o.image b _).again
  rw [Bundle.capabilities_runSteps] at hagain
  exact hagain.symm

/-! ## Evaluation -/

namespace Evaluation

theorem relaxPod_relaxPod (s : PodSpec) : relaxPod (relaxPod s) = relaxPod s := by
  have hrelax : relax ∘ relax = relax := rfl
  have hmap : List.map relax ∘ List.map relax = List.map relax := by
    rw [List.map_comp_map, hrelax]
  simp only [relaxPod, List.map_map, Option.map_map, hrelax, hmap]

theorem runSteps_again (b : Bundle) : runSteps steps (runSteps steps b) = runSteps steps b := by
  have hpods : relaxPod ∘ relaxPod = relaxPod := funext relaxPod_relaxPod
  have hobjects := OrderedMap.mapEntries_mapEntries_self
    (f := fun (_ : ObjectKey) => Resource.modifyPodSpec relaxPod)
    (fun _ r => by rw [Resource.modifyPodSpec_modifyPodSpec, hpods]) b.objects
  exact congrArg (Bundle.mk b.parameters · b.capabilities) hobjects

end Evaluation

/-! ## High availability -/

namespace HighAvailability

variable {o : HighAvailabilityOptions} {c : Capabilities} {key : ObjectKey}

theorem Written.again {new : String → Option String} {s s' : Secret} (h : Written new s s') :
    Written new s' s' where
  rest := rfl
  texts :=
    { entries := fun k => by
        rw [h.texts.entries, ← Option.or_assoc, Option.or_self]
      untouched := fun _ => rfl }

theorem Settled.again {r r' : Resource} (h : Settled o c key r r') : Settled o c key r' r' := by
  cases h with
  | deployment hscaled => exact .deployment hscaled
  | deploymentConfig hscaled => exact .deploymentConfig hscaled
  | singleton hworkload hsingle => exact .singleton hworkload hsingle
  | secret hkey hwritten => exact .secret hkey hwritten.again
  | namespacedSecret hkey => exact .namespacedSecret hkey
  | other hworkload hsecret => exact .other hworkload hsecret

theorem revise_revise (key : ObjectKey) (r : Resource) :
    revise key (laterSteps o c) (revise key (laterSteps o c) r) =
      revise key (laterSteps o c) r :=
  (settled_revise o c key r).again.eq_revise.symm

/-- Puts the connection in, if it is replaced. -/
def connect (o : HighAvailabilityOptions) (c : Capabilities)
    (m : OrderedMap ObjectKey Resource) : OrderedMap ObjectKey Resource :=
  if ReplacesConnection c then m.insert connectionKey (externalConnection o) else m

/-- Makes of every object what it comes to. -/
def settle (o : HighAvailabilityOptions) (c : Capabilities)
    (m : OrderedMap ObjectKey Resource) : OrderedMap ObjectKey Resource :=
  m.mapEntries fun key => revise key (laterSteps o c)

theorem objects_steps (o : HighAvailabilityOptions) (c : Capabilities) (b : Bundle) :
    (runSteps (steps o c) b).objects =
      settle o c (connect o c (b.objects.without c.externalDatabaseObjects.keys)) := by
  have hlater : ∀ b : Bundle, (runSteps (laterSteps o c) b).objects = settle o c b.objects := by
    intro b
    rw [Bundle.objects_runSteps joiningKeys_laterStep, leavingKeys_laterSteps,
      OrderedMap.without_nil]
    rfl
  have hput : ∀ b : Bundle, (runSteps ((replacements o c).map .put) b).objects =
      connect o c b.objects := by
    intro b
    rw [replacements_eq_ite]
    unfold connect
    split <;> rfl
  have hremove : (runSteps (c.externalDatabaseObjects.keys.map .remove) b).objects =
      b.objects.without c.externalDatabaseObjects.keys := by
    have hkept : ∀ key r, revise key (c.externalDatabaseObjects.keys.map .remove) r = r := by
      intro key r
      refine Bundle.revise_eq_self fun s hs => ?_
      obtain ⟨k, -, rfl⟩ := List.mem_map.1 hs
      rfl
    rw [Bundle.objects_runSteps joiningKeys_removal, leavingKeys_removals]
    simp only [OrderedMap.mapEntries, hkept, List.map_id']
  rw [steps_eq, runSteps_append, runSteps_append, hlater, hput, hremove]

theorem settle_connect_settle (m : OrderedMap ObjectKey Resource) :
    settle o c (connect o c (settle o c m)) = settle o c (connect o c m) := by
  have hsettle : ∀ m, settle o c (settle o c m) = settle o c m :=
    OrderedMap.mapEntries_mapEntries_self revise_revise
  unfold connect
  split
  · have hinsert : ∀ m, settle o c (m.insert connectionKey (externalConnection o)) =
        (settle o c m).insert connectionKey
          (revise connectionKey (laterSteps o c) (externalConnection o)) :=
      OrderedMap.mapEntries_insert _ _ _
    rw [hinsert, hinsert, hsettle]
  · exact hsettle m

theorem connect_without_connect (m : OrderedMap ObjectKey Resource) (ks : List ObjectKey) :
    connect o c ((connect o c (m.without ks)).without ks) = connect o c (m.without ks) := by
  unfold connect
  split
  · rw [OrderedMap.without_insert, OrderedMap.without_without]
    split
    · rfl
    · exact OrderedMap.insert_insert _ _ _ _
  · exact OrderedMap.without_without m

theorem objects_again (b : Bundle) :
    (runSteps (steps o c) (runSteps (steps o c) b)).objects = (runSteps (steps o c) b).objects := by
  rw [objects_steps, objects_steps]
  generalize b.objects = m
  generalize c.externalDatabaseObjects.keys = ks
  have hwithout : ∀ m, (settle o c m).without ks = settle o c (m.without ks) :=
    OrderedMap.without_mapEntries
  calc
    settle o c (connect o c ((settle o c (connect o c (m.without ks))).without ks)) =
        settle o c (connect o c (settle o c ((connect o c (m.without ks)).without ks))) := by
      rw [hwithout]
    _ = settle o c (connect o c ((connect o c (m.without ks)).without ks)) :=
      settle_connect_settle _
    _ = settle o c (connect o c (m.without ks)) := by rw [connect_without_connect]

theorem runSteps_again (o : HighAvailabilityOptions) (b : Bundle) :
    runSteps (steps o b.capabilities) (runSteps (steps o b.capabilities) b) =
      runSteps (steps o b.capabilities) b := by
  have hfirst := (effect_runSteps o b).parameters
  have hagain := (effect_runSteps o (runSteps (steps o b.capabilities) b)).parameters
  rw [Bundle.capabilities_runSteps, hfirst, List.filter_filter] at hagain
  simp only [Bool.and_self] at hagain
  exact Bundle.ext_entries (hagain.trans hfirst.symm)
    (congrArg OrderedMap.entries (objects_again b)) (by simp)

end HighAvailability

/-! ## All of them -/

/-- Running one of these transforms again leaves everything as it is, whatever is declared. -/
theorem transforms_idempotent :
    (∀ o, (Productized.transform o).Idempotent) ∧ (∀ o, (HighAvailability.transform o).Idempotent) ∧
      Evaluation.transform.Idempotent := by
  refine ⟨fun o => ?_, fun o => ?_, ?_⟩
  · exact Transform.idempotent_of_runSteps (Productized.run_eq o) (Productized.runSteps_again o)
  · exact Transform.idempotent_of_runSteps (HighAvailability.run_eq o)
      (HighAvailability.runSteps_again o)
  · exact Transform.idempotent_of_runSteps Evaluation.run_eq Evaluation.runSteps_again

end ApiPlatform
