import ApiPlatform.Proofs.Transform.Storage
import ApiPlatform.Proofs.Transform.Commutation
import ApiPlatform.Proofs.Transform.Accounted
import ApiPlatform.Proofs.Transform.Run
/-!
# Identities and their order

In a bundle no two parameters share a name and no two objects an identity, and each is found under
its own.  The steps of a transform keep that, and they take entries away without moving the ones
that stay.  Only a replaced connection may come in at the end.
-/

namespace ApiPlatform

open Catalog (HighAvailabilityOptions ObjectStorageOptions externalConnection)

/-! ## Lists without some members -/

section Without

variable {α : Type} [DecidableEq α]

theorem filter_notMem_nil (l : List α) : l.filter (· ∉ []) = l := by
  simp

theorem filter_notMem_filter (l xs ys : List α) :
    (l.filter (· ∉ xs)).filter (· ∉ ys) = l.filter (· ∉ xs ++ ys) := by
  rw [List.filter_filter]
  refine List.filter_congr fun a _ => ?_
  by_cases ha : a ∈ xs <;> simp [ha]

end Without

/-! ## Maps of values that know their keys -/

namespace OrderedMap

variable {κ α : Type} [DecidableEq κ] {m : OrderedMap κ α} {k : κ} {v : α}

theorem keys_insert (m : OrderedMap κ α) (k : κ) (v : α) :
    (m.insert k v).keys = m.keys ++ if k ∈ m.keys then [] else [k] := by
  obtain ⟨es⟩ := m
  unfold keys insert
  dsimp only
  induction es with
  | nil => rfl
  | cons e es ih =>
      by_cases he : e.1 = k
      · simp [insertIn, he]
      · simp only [insertIn, if_neg he, List.map_cons, ih, List.mem_cons, Ne.symm he, false_or,
          List.cons_append]

theorem keys_erase (m : OrderedMap κ α) (k : κ) :
    (m.erase k).keys = m.keys.filter (· ∉ [k]) := by
  simp [keys, erase, List.filter_map, Function.comp_def]

theorem keys_modify (m : OrderedMap κ α) (k : κ) (f : α → α) : (m.modify k f).keys = m.keys := by
  rw [modify_eq_mapEntries, keys_mapEntries]

theorem get?_insert_self (m : OrderedMap κ α) (k : κ) (v : α) :
    (m.insert k v).get? k = some v := by
  obtain ⟨es⟩ := m
  unfold get? insert
  dsimp only
  induction es with
  | nil => simp [insertIn]
  | cons e es ih =>
      by_cases he : e.1 = k
      · simp [insertIn, he]
      · rw [insertIn, if_neg he, List.lookup_cons, beq_eq_false_iff_ne.2 (Ne.symm he), ih]

theorem get?_eq_some_iff_mem (h : m.keys.Nodup) : m.get? k = some v ↔ (k, v) ∈ m.entries := by
  obtain ⟨es⟩ := m
  unfold get? keys at *
  dsimp only at *
  induction es with
  | nil => simp
  | cons e es ih =>
      obtain ⟨k', v'⟩ := e
      rw [List.map_cons, List.nodup_cons] at h
      by_cases hk : k = k'
      · subst hk
        have hnew : (k, v) ∉ es := fun hmem => h.1 (List.mem_map.2 ⟨(k, v), hmem, rfl⟩)
        simp [hnew, eq_comm]
      · rw [List.lookup_cons, beq_eq_false_iff_ne.2 hk, ih h.2]
        simp [hk]

/-- No key occurs twice, and every value stands under its own. -/
structure IndexedBy (f : α → κ) (m : OrderedMap κ α) : Prop where
  distinct : m.keys.Nodup
  own : ∀ e ∈ m.entries, e.1 = f e.2

namespace IndexedBy

variable {f : α → κ} {g : κ → α → α}

omit [DecidableEq κ] in
theorem map_values (h : m.IndexedBy f) : m.values.map f = m.keys := by
  unfold values keys
  rw [List.map_map]
  exact List.map_congr_left fun e he => (h.own e he).symm

theorem get?_eq_some_iff (h : m.IndexedBy f) :
    m.get? k = some v ↔ v ∈ m.values ∧ f v = k := by
  rw [get?_eq_some_iff_mem h.distinct, mem_values]
  constructor
  · intro hmem
    exact ⟨⟨k, hmem⟩, (h.own _ hmem).symm⟩
  · rintro ⟨⟨k', hmem⟩, rfl⟩
    have hk' : k' = f v := h.own _ hmem
    exact hk' ▸ hmem

omit [DecidableEq κ] in
theorem empty : (OrderedMap.empty : OrderedMap κ α).IndexedBy f := ⟨.nil, nofun⟩

theorem insert (h : m.IndexedBy f) (v : α) : (m.insert (f v) v).IndexedBy f where
  distinct := nodup_keys_insert h.distinct
  own e he := by
    rcases eq_or_mem_of_mem_insertIn he with rfl | he
    · rfl
    · exact h.own e he

theorem erase (h : m.IndexedBy f) (k : κ) : (m.erase k).IndexedBy f where
  distinct := nodup_keys_erase h.distinct k
  own e he := h.own e (List.mem_filter.1 he).1

omit [DecidableEq κ] in
theorem mapEntries (h : m.IndexedBy f) (hg : ∀ k v, f (g k v) = f v) :
    (m.mapEntries g).IndexedBy f where
  distinct := by
    rw [keys_mapEntries]
    exact h.distinct
  own e he := by
    obtain ⟨old, hold, rfl⟩ := List.mem_map.1 he
    exact (h.own old hold).trans (hg _ _).symm

theorem modify (h : m.IndexedBy f) (k : κ) {g : α → α} (hg : ∀ v, f (g v) = f v) :
    (m.modify k g).IndexedBy f := by
  rw [modify_eq_mapEntries]
  refine h.mapEntries fun k' v => ?_
  split
  · exact hg v
  · rfl

end IndexedBy

end OrderedMap

namespace Bundle

/-- Parameters and objects stand under their own names and identities, none of them twice. -/
structure Indexed (b : Bundle) : Prop where
  parameters : b.parameters.IndexedBy (·.name)
  objects : b.objects.IndexedBy (·.key)

theorem Indexed.setDefault {b : Bundle} (hb : b.Indexed) (name : String) (value : Option String) :
    (b.setDefault name value).Indexed where
  parameters := hb.parameters.modify name (g := ({ · with value })) fun _ => rfl
  objects := hb.objects

/-! ## Steps -/

namespace Step

/-- A step that touches no identity. -/
def KeepsKeys : Step → Prop
  | .change f => ∀ k r, (f k r).key = r.key
  | _ => True

def leavingKeys : Step → List ObjectKey
  | .remove key => [key]
  | _ => []

def leavingNames : Step → List String
  | .removeParameter name => [name]
  | _ => []

def joiningKeys (b : Bundle) : Step → List ObjectKey
  | .put r => if r.key ∈ b.objects.keys then [] else [r.key]
  | _ => []

theorem keepsKeys_changeAt {f : Resource → Resource} (hf : ∀ r : Resource, (f r).key = r.key)
    (key : ObjectKey) : (changeAt key f).KeepsKeys := by
  intro k r
  dsimp only
  split
  · exact hf r
  · rfl

variable {s : Step} {b : Bundle}

theorem KeepsKeys.indexed_run (hs : s.KeepsKeys) (hb : b.Indexed) : (s.run b).Indexed := by
  cases s with
  | change f => exact ⟨hb.parameters, hb.objects.mapEntries hs⟩
  | put r => exact ⟨hb.parameters, hb.objects.insert r⟩
  | remove key => exact ⟨hb.parameters, hb.objects.erase key⟩
  | removeParameter name => exact ⟨hb.parameters.erase name, hb.objects⟩
  | setDefault name value => exact hb.setDefault name value

theorem keys_objects_run (s : Step) (b : Bundle) :
    (s.run b).objects.keys = b.objects.keys.filter (· ∉ s.leavingKeys) ++ s.joiningKeys b := by
  cases s with
  | put r =>
      change (b.objects.insert r.key r).keys = b.objects.keys.filter (· ∉ []) ++ _
      rw [filter_notMem_nil]
      exact OrderedMap.keys_insert b.objects r.key r
  | remove key => exact (OrderedMap.keys_erase b.objects key).trans (List.append_nil _).symm
  | change f => simp [leavingKeys, joiningKeys, run]
  | removeParameter name => simp [leavingKeys, joiningKeys, run, Bundle.removeParameter]
  | setDefault name value => simp [leavingKeys, joiningKeys, run, Bundle.setDefault]

theorem keys_parameters_run (s : Step) (b : Bundle) :
    (s.run b).parameters.keys = b.parameters.keys.filter (· ∉ s.leavingNames) := by
  cases s with
  | removeParameter name => exact OrderedMap.keys_erase b.parameters name
  | setDefault name value =>
      have hkeys := OrderedMap.keys_modify b.parameters name ({ · with value })
      exact hkeys.trans (filter_notMem_nil _).symm
  | _ => exact (filter_notMem_nil b.parameters.keys).symm

end Step

variable {steps : List Step} {b : Bundle}

theorem Indexed.runSteps (hb : b.Indexed) (hsteps : ∀ s ∈ steps, s.KeepsKeys) :
    (runSteps steps b).Indexed := by
  induction steps generalizing b with
  | nil => exact hb
  | cons s steps ih =>
      obtain ⟨hs, hrest⟩ := List.forall_mem_cons.1 hsteps
      exact ih (hs.indexed_run hb) hrest

theorem keys_parameters_runSteps (steps : List Step) (b : Bundle) :
    (Bundle.runSteps steps b).parameters.keys =
      b.parameters.keys.filter (· ∉ steps.flatMap Step.leavingNames) := by
  induction steps generalizing b with
  | nil => simp [Bundle.runSteps]
  | cons s steps ih =>
      rw [runSteps_cons, ih, s.keys_parameters_run, filter_notMem_filter, List.flatMap_cons]

/-- Steps that put nothing in take away and do not move. -/
theorem keys_objects_runSteps (hsteps : ∀ s ∈ steps, ∀ b, s.joiningKeys b = []) (b : Bundle) :
    (Bundle.runSteps steps b).objects.keys =
      b.objects.keys.filter (· ∉ steps.flatMap Step.leavingKeys) := by
  induction steps generalizing b with
  | nil => simp [Bundle.runSteps]
  | cons s steps ih =>
      obtain ⟨hs, hrest⟩ := List.forall_mem_cons.1 hsteps
      rw [runSteps_cons, ih hrest, s.keys_objects_run, hs, List.append_nil, filter_notMem_filter,
        List.flatMap_cons]

end Bundle

open ApiPlatform.Bundle (Step Plan runSteps runSteps_append)

/-! ## Transforms -/

/-- One of the four transforms, with its options. -/
inductive Transformation where
  | productized (o : ProductizedOptions)
  | highAvailability (o : HighAvailabilityOptions)
  | externalStorage (o : ObjectStorageOptions)
  | evaluation

namespace Transformation

def transform : Transformation → Transform
  | .productized o => Productized.transform o
  | .highAvailability o => HighAvailability.transform o
  | .externalStorage o => ExternalStorage.transform o
  | .evaluation => Evaluation.transform

def plan : Transformation → Plan
  | .productized o => Productized.plan o
  | .highAvailability o => HighAvailability.plan o
  | .externalStorage o => ExternalStorage.plan o
  | .evaluation => Evaluation.plan

theorem run_eq (t : Transformation) (b : Bundle) : t.transform.run b = t.plan.run b := by
  cases t with
  | productized o => exact Productized.run_eq o b
  | highAvailability o => exact HighAvailability.run_eq o b
  | externalStorage o => exact ExternalStorage.run_eq o b
  | evaluation => exact Evaluation.run_eq b

/-- The identities that a transform takes away. -/
def leavingKeys (c : Capabilities) : Transformation → List ObjectKey
  | .highAvailability _ => c.externalDatabaseObjects.keys
  | .externalStorage _ => c.sharedStorage.map fun s => .template .persistentVolumeClaim s.claim
  | _ => []

/-- The names that a transform takes away. -/
def leavingNames (c : Capabilities) : Transformation → List String
  | .highAvailability _ => c.externalDatabaseParameters.keys
  | .externalStorage _ => c.sharedStorage.flatMap (·.parameter.toList)
  | _ => []

/-- The identities that a transform puts at the end: that of a declared connection which is not
there, or which leaves with the databases. -/
def joiningKeys (b : Bundle) : Transformation → List ObjectKey
  | .highAvailability _ =>
    if b.capabilities.connectionSecrets.contains Catalog.databaseSecret ∧
        (Bundle.connectionKey ∉ b.objects.keys ∨
          Bundle.connectionKey ∈ b.capabilities.externalDatabaseObjects.keys) then
      [Bundle.connectionKey]
    else []
  | _ => []

end Transformation

namespace HighAvailability

variable {o : HighAvailabilityOptions} {c : Capabilities}

/-- The steps behind the replacements. -/
def laterSteps (o : HighAvailabilityOptions) (c : Capabilities) : List Step :=
  c.externalDatabaseParameters.keys.map .removeParameter ++
    ((.change fun _ => scale o.replicas c) :: addressSteps o c)

/-- The databases leave, the connection is replaced, and the rest follows. -/
theorem steps_eq (o : HighAvailabilityOptions) (c : Capabilities) :
    steps o c = c.externalDatabaseObjects.keys.map .remove ++
      ((replacements o c).map .put ++ laterSteps o c) :=
  rfl

theorem addressStep_cases {s : Step} (hs : s ∈ addressSteps o c) :
    ∃ key field url, s = .changeAt key (writeEntry field url) := by
  obtain ⟨e, -, hs⟩ := List.mem_flatMap.1 hs
  obtain ⟨f, -, rfl⟩ := List.mem_map.1 hs
  exact ⟨_, _, _, rfl⟩

theorem laterStep_cases {s : Step} (hs : s ∈ laterSteps o c) :
    (∃ name, s = .removeParameter name) ∨ ∃ f, s = .change f ∧ s.KeepsKeys := by
  simp only [laterSteps, List.mem_append, List.mem_cons, List.mem_map] at hs
  rcases hs with ⟨name, -, rfl⟩ | rfl | hs
  · exact .inl ⟨name, rfl⟩
  · exact .inr ⟨_, rfl, fun _ r => (extends_scale o.replicas c r).key⟩
  · obtain ⟨key, field, url, rfl⟩ := addressStep_cases hs
    exact .inr ⟨_, rfl, Step.keepsKeys_changeAt (fun r => (extends_writeEntry field url r).key) key⟩

theorem keepsKeys_steps : ∀ s ∈ steps o c, s.KeepsKeys := by
  intro s hs
  rcases List.mem_append.1 hs with hs | hs
  · obtain ⟨key, -, rfl⟩ := List.mem_map.1 hs
    trivial
  rcases List.mem_append.1 hs with hs | hs
  · obtain ⟨r, -, rfl⟩ := List.mem_map.1 hs
    trivial
  rcases laterStep_cases hs with ⟨name, rfl⟩ | ⟨f, rfl, hf⟩
  · trivial
  · exact hf

theorem leavingNames_addressSteps : (addressSteps o c).flatMap Step.leavingNames = [] := by
  refine List.flatMap_eq_nil_iff.2 fun s hs => ?_
  obtain ⟨key, field, url, rfl⟩ := addressStep_cases hs
  rfl

theorem leavingNames_steps :
    (steps o c).flatMap Step.leavingNames = c.externalDatabaseParameters.keys := by
  have hremovals : ∀ keys : List ObjectKey,
      (keys.map Step.remove).flatMap Step.leavingNames = [] := by
    simp [List.flatMap_map, Step.leavingNames]
  have hputs : ∀ rs : List Resource, (rs.map Step.put).flatMap Step.leavingNames = [] := by
    simp [List.flatMap_map, Step.leavingNames]
  have hnames : ∀ names : List String,
      (names.map Step.removeParameter).flatMap Step.leavingNames = names := by
    simp [List.flatMap_map, Step.leavingNames]
  rw [steps, List.flatMap_append, List.flatMap_append, List.flatMap_append, hremovals, hputs,
    hnames, List.flatMap_cons, leavingNames_addressSteps]
  exact List.append_nil _

variable {b : Bundle}

theorem leavingKeys_removals (keys : List ObjectKey) :
    (keys.map Step.remove).flatMap Step.leavingKeys = keys := by
  simp [List.flatMap_map, Step.leavingKeys]

theorem joiningKeys_removal {keys : List ObjectKey} :
    ∀ s ∈ keys.map Step.remove, ∀ b, s.joiningKeys b = [] := by
  intro s hs b
  obtain ⟨key, -, rfl⟩ := List.mem_map.1 hs
  rfl

theorem leavingKeys_laterSteps : (laterSteps o c).flatMap Step.leavingKeys = [] := by
  refine List.flatMap_eq_nil_iff.2 fun s hs => ?_
  rcases laterStep_cases hs with ⟨name, rfl⟩ | ⟨f, rfl, -⟩ <;> rfl

theorem joiningKeys_laterStep : ∀ s ∈ laterSteps o c, ∀ b, s.joiningKeys b = [] := by
  intro s hs b
  rcases laterStep_cases hs with ⟨name, rfl⟩ | ⟨f, rfl, -⟩ <;> rfl

theorem keys_objects_removals (keys : List ObjectKey) (b : Bundle) :
    (runSteps (keys.map .remove) b).objects.keys = b.objects.keys.filter (· ∉ keys) := by
  rw [Bundle.keys_objects_runSteps joiningKeys_removal, leavingKeys_removals]

theorem keys_objects_laterSteps (b : Bundle) :
    (runSteps (laterSteps o c) b).objects.keys = b.objects.keys := by
  rw [Bundle.keys_objects_runSteps joiningKeys_laterStep, leavingKeys_laterSteps,
    filter_notMem_nil]

/-- The only replacement is that of the connection. -/
theorem keys_objects_replacements (b : Bundle) :
    (runSteps ((replacements o c).map .put) b).objects.keys = b.objects.keys ++
      if c.connectionSecrets.contains Catalog.databaseSecret ∧
        Bundle.connectionKey ∉ b.objects.keys then [Bundle.connectionKey] else [] := by
  by_cases hc : c.connectionSecrets.contains Catalog.databaseSecret
  · have hone : replacements o c = [externalConnection o] :=
      List.filter_cons_of_pos (decide_eq_true ⟨rfl, hc⟩)
    have hput : (runSteps [.put (externalConnection o)] b).objects.keys = b.objects.keys ++
        if Bundle.connectionKey ∈ b.objects.keys then [] else [Bundle.connectionKey] :=
      OrderedMap.keys_insert b.objects Bundle.connectionKey _
    rw [hone]
    refine hput.trans ?_
    by_cases hmem : Bundle.connectionKey ∈ b.objects.keys <;> simp [hc, hmem]
  · have hnone : replacements o c = [] :=
      List.filter_cons_of_neg fun h => hc (of_decide_eq_true h).2
    rw [hnone, if_neg fun h => hc h.1, List.append_nil]
    rfl

theorem keys_objects_steps (o : HighAvailabilityOptions) (b : Bundle) :
    (runSteps (steps o b.capabilities) b).objects.keys =
      b.objects.keys.filter (· ∉ b.capabilities.externalDatabaseObjects.keys) ++
        (Transformation.highAvailability o).joiningKeys b := by
  rw [steps_eq, runSteps_append, runSteps_append, keys_objects_laterSteps,
    keys_objects_replacements, keys_objects_removals]
  simp [Transformation.joiningKeys, imp_iff_not_or]

end HighAvailability

namespace ExternalStorage

variable {o : ObjectStorageOptions} {c : Capabilities}

theorem step_cases {t : Step} (ht : t ∈ steps o c) :
    (∃ f, t = .change f ∧ t.KeepsKeys) ∨ (∃ key, t = .remove key) ∨
      ∃ name, t = .removeParameter name := by
  obtain ⟨s, -, ht⟩ := List.mem_flatMap.1 ht
  simp only [storageSteps, List.mem_cons, List.mem_map] at ht
  rcases ht with rfl | rfl | rfl | ⟨name, -, rfl⟩
  · exact .inl ⟨_, rfl, Step.keepsKeys_changeAt (fun r => (extends_writeSettings r).key) _⟩
  · exact .inl ⟨_, rfl, fun _ r => extends_moveWorkload.key⟩
  · exact .inr (.inl ⟨_, rfl⟩)
  · exact .inr (.inr ⟨name, rfl⟩)

theorem leavingKeys_steps : (steps o c).flatMap Step.leavingKeys =
    c.sharedStorage.map fun s => .template .persistentVolumeClaim s.claim := by
  have hstorage : ∀ s : SharedStorage, (storageSteps o s).flatMap Step.leavingKeys =
      [.template .persistentVolumeClaim s.claim] := by
    intro s
    cases hs : s.parameter <;> simp [storageSteps, hs, Step.changeAt, Step.leavingKeys]
  rw [steps, List.flatMap_assoc, List.flatMap_congr fun s _ => hstorage s]
  exact List.map_eq_flatMap.symm

theorem leavingNames_steps : (steps o c).flatMap Step.leavingNames =
    c.sharedStorage.flatMap (·.parameter.toList) := by
  have hstorage : ∀ s : SharedStorage,
      (storageSteps o s).flatMap Step.leavingNames = s.parameter.toList := by
    intro s
    cases hs : s.parameter <;> simp [storageSteps, hs, Step.changeAt, Step.leavingNames]
  rw [steps, List.flatMap_assoc]
  exact List.flatMap_congr fun s _ => hstorage s

end ExternalStorage

namespace Productized

variable {o : ProductizedOptions} {c : Capabilities}

theorem leavingKeys_steps : (steps o c).flatMap Step.leavingKeys = [] := by
  refine List.flatMap_eq_nil_iff.2 fun s hs => ?_
  rcases step_cases hs with ⟨name, value, rfl⟩ | ⟨f, rfl, -⟩ <;> rfl

theorem joiningKeys_step : ∀ s ∈ steps o c, ∀ b, s.joiningKeys b = [] := by
  intro s hs b
  rcases step_cases hs with ⟨name, value, rfl⟩ | ⟨f, rfl, -⟩ <;> rfl

end Productized

namespace Transformation

variable {t : Transformation} {c : Capabilities} {b b' : Bundle}

theorem keepsKeys_steps (t : Transformation) (c : Capabilities) :
    ∀ s ∈ t.plan.steps c, s.KeepsKeys := by
  intro s hs
  cases t with
  | productized o =>
      rcases List.mem_append.1 hs with hs | hs
      · obtain ⟨e, -, rfl⟩ := List.mem_map.1 hs
        trivial
      · obtain rfl := List.mem_singleton.1 hs
        exact fun _ r => (Productized.extends_redirectStream o c r).key
  | highAvailability o => exact HighAvailability.keepsKeys_steps s hs
  | externalStorage o =>
      rcases ExternalStorage.step_cases hs with ⟨f, rfl, hf⟩ | ⟨key, rfl⟩ | ⟨name, rfl⟩
      · exact hf
      · trivial
      · trivial
  | evaluation =>
      obtain rfl := List.mem_singleton.1 hs
      exact fun _ r => Resource.key_modifyPodSpec _ r

theorem leavingNames_steps (t : Transformation) (c : Capabilities) :
    (t.plan.steps c).flatMap Step.leavingNames = t.leavingNames c := by
  cases t with
  | productized o => simp [plan, Productized.plan, Productized.steps, leavingNames,
      List.flatMap_map, Step.leavingNames]
  | highAvailability o => exact HighAvailability.leavingNames_steps
  | externalStorage o => exact ExternalStorage.leavingNames_steps
  | evaluation => rfl

theorem keys_objects_steps (t : Transformation) (b : Bundle) :
    (runSteps (t.plan.steps b.capabilities) b).objects.keys =
      b.objects.keys.filter (· ∉ t.leavingKeys b.capabilities) ++ t.joiningKeys b := by
  cases t with
  | productized o =>
      have hkeys : (runSteps (Productized.steps o b.capabilities) b).objects.keys =
          b.objects.keys.filter (· ∉ []) := by
        rw [Bundle.keys_objects_runSteps Productized.joiningKeys_step,
          Productized.leavingKeys_steps]
      exact hkeys.trans (List.append_nil _).symm
  | highAvailability o => exact HighAvailability.keys_objects_steps o b
  | externalStorage o =>
      have hleaving : ((externalStorage o).plan.steps b.capabilities).flatMap Step.leavingKeys =
          (externalStorage o).leavingKeys b.capabilities := ExternalStorage.leavingKeys_steps
      rw [Bundle.keys_objects_runSteps, hleaving]
      · exact (List.append_nil _).symm
      · intro s hs b'
        rcases ExternalStorage.step_cases hs with ⟨f, rfl, -⟩ | ⟨key, rfl⟩ | ⟨name, rfl⟩ <;> rfl
  | evaluation =>
      rw [Bundle.keys_objects_runSteps]
      · exact (List.append_nil _).symm
      · intro s hs b'
        obtain rfl := List.mem_singleton.1 hs
        rfl

theorem eq_runSteps (h : t.transform.run b = .ok b') :
    b' = runSteps (t.plan.steps b.capabilities) b := by
  rw [run_eq, Plan.run] at h
  split at h
  · cases h
  · exact (Except.ok.inj h).symm

end Transformation

end ApiPlatform
