import ApiPlatform.Proofs.Transform.Order
import ApiPlatform.Proofs.Transform.Steady
/-!
# What becomes of an object

A step does to the object under an identity what depends on that object alone.  So its fate under a
list of steps can be followed without the other objects, and whatever every step preserves holds of
all objects in the end.
-/

namespace ApiPlatform

open Catalog (HighAvailabilityOptions ObjectStorageOptions)

namespace OrderedMap

variable {κ α : Type} [DecidableEq κ]

theorem get?_erase_self (m : OrderedMap κ α) (k : κ) : (m.erase k).get? k = none := by
  refine List.lookup_eq_none_iff.2 fun e he => ?_
  have hne : e.1 ≠ k := of_decide_eq_true (List.mem_filter.1 he).2
  exact bne_iff_ne.2 hne.symm

end OrderedMap

namespace Bundle

variable {b : Bundle} {steps : List Step} {P : Resource → Prop}

/-! ## One object -/

/-- What a step makes of the object under an identity. -/
def Step.fate (key : ObjectKey) : Step → Option Resource → Option Resource
  | .change f, r? => r?.map (f key)
  | .put r, r? => if r.key = key then some r else r?
  | .remove k, r? => if k = key then none else r?
  | .removeParameter _, r? => r?
  | .setDefault _ _, r? => r?

/-- What a list of steps makes of the object under an identity. -/
def fate (key : ObjectKey) (steps : List Step) (r? : Option Resource) : Option Resource :=
  steps.foldl (fun r? s => s.fate key r?) r?

theorem Step.object?_run (s : Step) (key : ObjectKey) (b : Bundle) :
    (s.run b).object? key = s.fate key (b.object? key) := by
  cases s with
  | change f => exact OrderedMap.get?_mapEntries f key b.objects
  | put r =>
      by_cases hkey : r.key = key
      · subst hkey
        exact (OrderedMap.get?_insert_self b.objects r.key r).trans (if_pos rfl).symm
      · exact (OrderedMap.get?_insert_of_ne (Ne.symm hkey) r b.objects).trans (if_neg hkey).symm
  | remove k =>
      by_cases hkey : k = key
      · subst hkey
        exact (OrderedMap.get?_erase_self b.objects k).trans (if_pos rfl).symm
      · exact (OrderedMap.get?_erase_of_ne (Ne.symm hkey) b.objects).trans (if_neg hkey).symm
  | removeParameter name => rfl
  | setDefault name value => rfl

theorem object?_runSteps (steps : List Step) (key : ObjectKey) (b : Bundle) :
    (runSteps steps b).object? key = fate key steps (b.object? key) := by
  induction steps generalizing b with
  | nil => rfl
  | cons s steps ih =>
      rw [runSteps_cons, ih, s.object?_run]
      rfl

theorem fate_append (key : ObjectKey) (first second : List Step) (r? : Option Resource) :
    fate key (first ++ second) r? = fate key second (fate key first r?) :=
  List.foldl_append

/-! ## Every object -/

/-- A step that makes objects with a property of objects with that property. -/
def Step.Preserves (P : Resource → Prop) : Step → Prop
  | .change f => ∀ key r, P r → P (f key r)
  | .put r => P r
  | _ => True

theorem Step.Preserves.forall_run {s : Step} (hs : s.Preserves P)
    (hb : ∀ r ∈ b.objects.values, P r) : ∀ r ∈ (s.run b).objects.values, P r := by
  intro r hr
  cases s with
  | change f =>
      obtain ⟨key, he⟩ := OrderedMap.mem_values.1 hr
      obtain ⟨e, hold, heq⟩ := List.mem_map.1 he
      cases heq
      exact hs _ _ (hb e.2 (OrderedMap.mem_values.2 ⟨e.1, hold⟩))
  | put new =>
      obtain ⟨key, he⟩ := OrderedMap.mem_values.1 hr
      rcases OrderedMap.eq_or_mem_of_mem_insertIn he with heq | hold
      · cases heq
        exact hs
      · exact hb r (OrderedMap.mem_values.2 ⟨key, hold⟩)
  | remove k =>
      obtain ⟨key, he⟩ := OrderedMap.mem_values.1 hr
      exact hb r (OrderedMap.mem_values.2 ⟨key, (List.mem_filter.1 he).1⟩)
  | removeParameter name => exact hb r hr
  | setDefault name value => exact hb r hr

theorem forall_runSteps (hsteps : ∀ s ∈ steps, s.Preserves P) (hb : ∀ r ∈ b.objects.values, P r) :
    ∀ r ∈ (runSteps steps b).objects.values, P r := by
  induction steps generalizing b with
  | nil => exact hb
  | cons s steps ih =>
      obtain ⟨hs, hrest⟩ := List.forall_mem_cons.1 hsteps
      exact ih hrest (hs.forall_run hb)

variable {steady declared : String → Prop} {c : Capabilities}

theorem Step.Safe.preserves {s : Step} (hs : s.Safe steady c) :
    s.Preserves (·.Fillable steady) := by
  cases s with
  | change f => exact fun key r => (hs key r).2 steady fun _ h => h
  | put r => exact hs.2
  | _ => trivial

end Bundle

open ApiPlatform.Bundle (Step fate fate_append runSteps runSteps_append)

/-! ## Product images -/

namespace Productized

variable {o : ProductizedOptions} {c : Capabilities}

/-- Defaults are no part of objects, so that only streams are redirected. -/
theorem fate_steps (key : ObjectKey) (r? : Option Resource) :
    fate key (steps o c) r? = r?.map (redirectStream o c) := by
  have hdefaults : ∀ es : List (String × ProductImage),
      fate key (es.map fun e => .setDefault e.1 (some (o.image e.2))) r? = r? := by
    intro es
    induction es with
    | nil => rfl
    | cons e es ih => exact ih
  rw [steps, fate_append, hdefaults]
  rfl

theorem redirectStream_of_eq_none {r : Resource}
    (h : r.metadata.name.bind c.productImageStreams.get? = none) : redirectStream o c r = r := by
  cases r with
  | imageStream s =>
      have hs : s.metadata.name.bind c.productImageStreams.get? = none := h
      rw [redirectStream, hs]
  | _ => rfl

end Productized

/-! ## Chains of transforms -/

namespace Transformation

variable {steady : String → Prop} {c : Capabilities} {b b' : Bundle} {ts : List Transformation}

/-- The options of a transform refer to some names only. -/
def RefersTo (names : String → Prop) : Transformation → Prop
  | .productized o => ∀ image, Placeholder.Plain (o.image image)
  | .highAvailability o => o.Steady names
  | .externalStorage o => o.Steady names
  | .evaluation => True

/-- The steps of a transform bring no other references in than those of its options. -/
theorem RefersTo.preserves {t : Transformation} (ht : t.RefersTo steady) (hc : c.Tidy) :
    ∀ s ∈ t.plan.steps c, s.Preserves (·.Fillable steady) := by
  cases t with
  | productized o => exact fun s hs => (Productized.safe_steps ht c s hs).preserves
  | evaluation => exact fun s hs => (Evaluation.safe_steps c s hs).preserves
  | highAvailability o =>
      intro s hs
      simp only [plan, HighAvailability.plan, HighAvailability.steps, List.mem_append] at hs
      rcases hs with hs | hs | hs | hs
      · exact (HighAvailability.safe_removals hc s hs).preserves
      · rw [HighAvailability.replacements_eq hc] at hs
        obtain rfl := List.mem_singleton.1 hs
        exact Catalog.fillable_externalConnection ht
      · obtain ⟨name, -, rfl⟩ := List.mem_map.1 hs
        trivial
      · exact (HighAvailability.safe_addressSteps ht hc s hs).preserves
  | externalStorage o =>
      intro s hs
      obtain ⟨storage, hstorage, hs⟩ := List.mem_flatMap.1 hs
      simp only [ExternalStorage.storageSteps, List.mem_cons, List.mem_map] at hs
      rcases hs with rfl | rfl | rfl | ⟨name, -, rfl⟩
      · exact (ExternalStorage.safe_configure ht c).preserves
      · exact (ExternalStorage.safe_move ht (hc.environment storage hstorage).1 c).preserves
      · trivial
      · trivial

/-- The steps of some transforms, one after the other. -/
def stepsOf (ts : List Transformation) (c : Capabilities) : List Step :=
  ts.flatMap fun t => t.plan.steps c

theorem eq_runSteps_of_runAll (h : TransformChain.runAll (ts.map (·.transform)) b = .ok b') :
    b' = runSteps (stepsOf ts b.capabilities) b := by
  induction ts generalizing b with
  | nil =>
      cases h
      rfl
  | cons t ts ih =>
      obtain ⟨b₁, hrun, hrest⟩ := Failure.bind_eq_ok.1 h
      have hfirst := eq_runSteps hrun
      have hsame : b₁.capabilities = b.capabilities := by
        rw [hfirst, Bundle.capabilities_runSteps]
      rw [ih hrest, hsame, stepsOf, stepsOf, List.flatMap_cons, runSteps_append, ← hfirst]

end Transformation

end ApiPlatform
