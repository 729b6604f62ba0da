import ApiPlatform.Proofs.Template.Faults
import ApiPlatform.Proofs.Transform.Order
/-!
# Editing a bundle

Whatever is done to an empty or assembled bundle, its entries stand under their own names and
identities.  An edit takes away what it names, puts what is new at the end and moves nothing else.
-/

namespace ApiPlatform.Bundle

/-- What can be done to a bundle. -/
inductive Edit where
  | pushParameter (p : Parameter)
  | pushObject (r : Resource)
  | upsertObject (r : Resource)
  | removeObject (key : ObjectKey)
  | removeParameter (name : String)
  | setDefault (name : String) (value : Option String)
  | setReplicas (key : ObjectKey) (replicas : Int32)
  | mergeCapabilities (c : Capabilities)
  | apply (t : Transformation)

namespace Edit

/-- The edited bundle, if the edit is not refused. -/
def run : Edit → Bundle → Option Bundle
  | .pushParameter p, b => (b.pushParameter p).toOption
  | .pushObject r, b => (b.pushObject r).toOption
  | .upsertObject r, b => some (b.upsertObject r)
  | .removeObject key, b => some (b.removeObject key)
  | .removeParameter name, b => some (b.removeParameter name)
  | .setDefault name value, b => some (b.setDefault name value)
  | .setReplicas key replicas, b => some (b.modifyObject key (Resource.withReplicas replicas))
  | .mergeCapabilities c, b => some (b.mergeCapabilities c)
  | .apply t, b => (t.transform.run b).toOption

/-- The bundle after an edit; a refused one leaves it as it was. -/
def after (e : Edit) (b : Bundle) : Bundle := (e.run b).getD b

/-- The identities that an edit takes away. -/
def leavingKeys (c : Capabilities) : Edit → List ObjectKey
  | .removeObject key => [key]
  | .apply t => t.leavingKeys c
  | _ => []

/-- The names that an edit takes away. -/
def leavingNames (c : Capabilities) : Edit → List String
  | .removeParameter name => [name]
  | .apply t => t.leavingNames c
  | _ => []

/-- The identities that an edit puts at the end. -/
def joiningKeys (b : Bundle) : Edit → List ObjectKey
  | .pushObject r => [r.key]
  | .upsertObject r => if r.key ∈ b.objects.keys then [] else [r.key]
  | .apply t => t.joiningKeys b
  | _ => []

/-- The names that an edit puts at the end. -/
def joiningNames : Edit → List String
  | .pushParameter p => [p.name]
  | _ => []

/-- What an edit is refused for: a push finds its name or identity taken, and a storage that is to
be replaced lacks its environment. -/
def Refused (b : Bundle) : Edit → Prop
  | .pushParameter p => p.name ∈ b.parameters.keys
  | .pushObject r => r.key ∈ b.objects.keys
  | .apply (.externalStorage _) =>
    ∃ s ∈ b.capabilities.sharedStorage, ¬ExternalStorage.hasEnvironment s b
  | _ => False

/-- An edit moves nothing: what it takes away is missing, what it puts in is at the end. -/
structure Orderly (e : Edit) (b b' : Bundle) : Prop where
  names : b'.parameters.keys =
    b.parameters.keys.filter (· ∉ e.leavingNames b.capabilities) ++ e.joiningNames
  keys : b'.objects.keys =
    b.objects.keys.filter (· ∉ e.leavingKeys b.capabilities) ++ e.joiningKeys b
  pushedParameter : ∀ p, e = .pushParameter p → b'.parameters.values = b.parameters.values ++ [p]
  pushedObject : ∀ r, e = .pushObject r → b'.objects.values = b.objects.values ++ [r]
  upserted : ∀ r, e = .upsertObject r →
    ∀ key, b'.object? key = if key = r.key then some r else b.object? key

variable {e : Edit} {b b' : Bundle}

/-! ## One edit -/

theorem pushParameter_eq_some {p : Parameter} (h : (pushParameter p).run b = some b') :
    p.name ∉ b.parameters.keys ∧
      b' = { b with parameters := ⟨b.parameters.entries ++ [(p.name, p)]⟩ } := by
  change (b.pushParameter p).toOption = some b' at h
  unfold Bundle.pushParameter at h
  split at h
  · cases h
  · next hnew =>
      have hnotMem := fun hmem => hnew (OrderedMap.contains_of_mem_keys hmem)
      rw [OrderedMap.insert_of_notMem hnotMem] at h
      exact ⟨hnotMem, (Option.some.inj h).symm⟩

theorem pushObject_eq_some {r : Resource} (h : (pushObject r).run b = some b') :
    r.key ∉ b.objects.keys ∧ b' = { b with objects := ⟨b.objects.entries ++ [(r.key, r)]⟩ } := by
  change (b.pushObject r).toOption = some b' at h
  unfold Bundle.pushObject at h
  split at h
  · cases h
  · next hnew =>
      have hnotMem := fun hmem => hnew (OrderedMap.contains_of_mem_keys hmem)
      rw [OrderedMap.insert_of_notMem hnotMem] at h
      exact ⟨hnotMem, (Option.some.inj h).symm⟩

theorem apply_eq_some {t : Transformation} (h : (apply t).run b = some b') :
    b' = runSteps (t.plan.steps b.capabilities) b := by
  change (t.transform.run b).toOption = some b' at h
  cases hrun : t.transform.run b with
  | error e =>
      rw [hrun] at h
      cases h
  | ok b₁ =>
      rw [hrun] at h
      cases h
      exact t.eq_runSteps hrun

/-- An edit keeps every entry under its own name or identity. -/
theorem indexed_of_run_eq_some (hb : b.Indexed) (h : e.run b = some b') : b'.Indexed := by
  cases e with
  | pushParameter p =>
      obtain ⟨hnew, rfl⟩ := pushParameter_eq_some h
      have hinsert := hb.parameters.insert p
      rw [OrderedMap.insert_of_notMem hnew] at hinsert
      exact ⟨hinsert, hb.objects⟩
  | pushObject r =>
      obtain ⟨hnew, rfl⟩ := pushObject_eq_some h
      have hinsert := hb.objects.insert r
      rw [OrderedMap.insert_of_notMem hnew] at hinsert
      exact ⟨hb.parameters, hinsert⟩
  | upsertObject r =>
      cases h
      exact ⟨hb.parameters, hb.objects.insert r⟩
  | removeObject key =>
      cases h
      exact ⟨hb.parameters, hb.objects.erase key⟩
  | removeParameter name =>
      cases h
      exact ⟨hb.parameters.erase name, hb.objects⟩
  | setDefault name value =>
      cases h
      exact hb.setDefault name value
  | setReplicas key replicas =>
      cases h
      exact ⟨hb.parameters, hb.objects.modify key fun r => r.key_withReplicas replicas⟩
  | mergeCapabilities c =>
      cases h
      exact ⟨hb.parameters, hb.objects⟩
  | apply t =>
      obtain rfl := apply_eq_some h
      exact hb.runSteps (t.keepsKeys_steps b.capabilities)

theorem names_of_run_eq_some (h : e.run b = some b') : b'.parameters.keys =
    b.parameters.keys.filter (· ∉ e.leavingNames b.capabilities) ++ e.joiningNames := by
  cases e with
  | pushParameter p =>
      obtain ⟨-, rfl⟩ := pushParameter_eq_some h
      have hkept := filter_notMem_nil b.parameters.keys
      calc
        (b.parameters.entries ++ [(p.name, p)]).map (·.1) = b.parameters.keys ++ [p.name] :=
          List.map_append
        _ = b.parameters.keys.filter (· ∉ []) ++ [p.name] := by rw [hkept]
  | pushObject r =>
      obtain ⟨-, rfl⟩ := pushObject_eq_some h
      simp [leavingNames, joiningNames]
  | removeParameter name =>
      cases h
      exact ((Step.removeParameter name).keys_parameters_run b).trans (List.append_nil _).symm
  | setDefault name value =>
      cases h
      exact ((Step.setDefault name value).keys_parameters_run b).trans (List.append_nil _).symm
  | apply t =>
      obtain rfl := apply_eq_some h
      have hkeys := keys_parameters_runSteps (t.plan.steps b.capabilities) b
      rw [t.leavingNames_steps] at hkeys
      exact hkeys.trans (List.append_nil _).symm
  | _ =>
      cases h
      simp [leavingNames, joiningNames, Bundle.upsertObject, Bundle.removeObject, modifyObject,
        Bundle.mergeCapabilities]

theorem keys_of_run_eq_some (h : e.run b = some b') : b'.objects.keys =
    b.objects.keys.filter (· ∉ e.leavingKeys b.capabilities) ++ e.joiningKeys b := by
  cases e with
  | pushParameter p =>
      obtain ⟨-, rfl⟩ := pushParameter_eq_some h
      simp [leavingKeys, joiningKeys]
  | pushObject r =>
      obtain ⟨-, rfl⟩ := pushObject_eq_some h
      have hkept := filter_notMem_nil b.objects.keys
      calc
        (b.objects.entries ++ [(r.key, r)]).map (·.1) = b.objects.keys ++ [r.key] :=
          List.map_append
        _ = b.objects.keys.filter (· ∉ []) ++ [r.key] := by rw [hkept]
  | upsertObject r =>
      cases h
      exact (Step.put r).keys_objects_run b
  | removeObject key =>
      cases h
      exact (Step.remove key).keys_objects_run b
  | setReplicas key replicas =>
      cases h
      rw [modifyObject_eq_run]
      exact (Step.changeAt key (Resource.withReplicas replicas)).keys_objects_run b
  | apply t =>
      obtain rfl := apply_eq_some h
      exact t.keys_objects_steps b
  | _ =>
      cases h
      simp [leavingKeys, joiningKeys, Bundle.removeParameter, Bundle.setDefault,
        Bundle.mergeCapabilities]

theorem orderly (h : e.run b = some b') : e.Orderly b b' where
  names := names_of_run_eq_some h
  keys := keys_of_run_eq_some h
  pushedParameter := by
    rintro p rfl
    obtain ⟨-, rfl⟩ := pushParameter_eq_some h
    exact List.map_append
  pushedObject := by
    rintro r rfl
    obtain ⟨-, rfl⟩ := pushObject_eq_some h
    exact List.map_append
  upserted := by
    rintro r rfl key
    cases h
    split
    · next heq =>
        rw [heq]
        exact OrderedMap.get?_insert_self b.objects r.key r
    · next hne => exact OrderedMap.get?_insert_of_ne hne r b.objects

theorem run_eq_none_iff : e.run b = none ↔ e.Refused b := by
  cases e with
  | pushParameter p =>
      change (b.pushParameter p).toOption = none ↔ p.name ∈ b.parameters.keys
      unfold Bundle.pushParameter
      split
      · next hold => exact iff_of_true rfl (OrderedMap.mem_keys_of_contains hold)
      · next hnew =>
          exact iff_of_false (Option.some_ne_none _) fun hmem =>
            hnew (OrderedMap.contains_of_mem_keys hmem)
  | pushObject r =>
      change (b.pushObject r).toOption = none ↔ r.key ∈ b.objects.keys
      unfold Bundle.pushObject
      split
      · next hold => exact iff_of_true rfl (OrderedMap.mem_keys_of_contains hold)
      · next hnew =>
          exact iff_of_false (Option.some_ne_none _) fun hmem =>
            hnew (OrderedMap.contains_of_mem_keys hmem)
  | apply t =>
      cases t with
      | externalStorage o =>
          have hrun : (ExternalStorage.transform o).run b =
              ExternalStorage.replaceAll o b.capabilities.sharedStorage b := rfl
          change ((ExternalStorage.transform o).run b).toOption = none ↔
            ∃ s ∈ b.capabilities.sharedStorage, ¬ExternalStorage.hasEnvironment s b
          rw [hrun, ExternalStorage.replaceAll_eq]
          cases hfirst : ExternalStorage.firstLacking b b.capabilities.sharedStorage with
          | none =>
              refine iff_of_false (Option.some_ne_none _) ?_
              rintro ⟨s, hs, hlacks⟩
              exact List.find?_eq_none.1 hfirst s hs (decide_eq_true hlacks)
          | some s =>
              unfold ExternalStorage.firstLacking at hfirst
              have hlacks := List.find?_some hfirst
              exact iff_of_true rfl
                ⟨s, List.mem_of_find?_eq_some hfirst, of_decide_eq_true hlacks⟩
      | _ => exact iff_of_false (Option.some_ne_none _) id
  | _ => exact iff_of_false (Option.some_ne_none _) id

theorem after_of_run_eq_none (h : e.run b = none) : e.after b = b := by
  rw [after, h, Option.getD_none]

theorem after_of_run_eq_some (h : e.run b = some b') : e.after b = b' := by
  rw [after, h, Option.getD_some]

theorem indexed_after (e : Edit) (hb : b.Indexed) : (e.after b).Indexed := by
  cases h : e.run b with
  | none => rwa [after_of_run_eq_none h]
  | some b' =>
      rw [after_of_run_eq_some h]
      exact indexed_of_run_eq_some hb h

theorem sublist_filter_append {α : Type} [DecidableEq α] {as l leaving : List α}
    (has : as.Sublist l) (hstay : ∀ a ∈ as, a ∉ leaving) (joining : List α) :
    as.Sublist (l.filter (· ∉ leaving) ++ joining) := by
  have hkept : as.filter (· ∉ leaving) = as :=
    List.filter_eq_self.2 fun a ha => decide_eq_true (hstay a ha)
  have hfilter : as.Sublist (l.filter (· ∉ leaving)) := hkept ▸ has.filter _
  exact hfilter.trans (List.sublist_append_left _ _)

/-- What an edit does not take away stays in its order. -/
theorem sublist_names_after {names : List String} (hnames : names.Sublist b.parameters.keys)
    (hstay : ∀ name ∈ names, name ∉ e.leavingNames b.capabilities) :
    names.Sublist (e.after b).parameters.keys := by
  cases h : e.run b with
  | none => rwa [after_of_run_eq_none h]
  | some b' =>
      rw [after_of_run_eq_some h, names_of_run_eq_some h]
      exact sublist_filter_append hnames hstay _

theorem sublist_keys_after {keys : List ObjectKey} (hkeys : keys.Sublist b.objects.keys)
    (hstay : ∀ key ∈ keys, key ∉ e.leavingKeys b.capabilities) :
    keys.Sublist (e.after b).objects.keys := by
  cases h : e.run b with
  | none => rwa [after_of_run_eq_none h]
  | some b' =>
      rw [after_of_run_eq_some h, keys_of_run_eq_some h]
      exact sublist_filter_append hkeys hstay _

end Edit

/-! ## Sequences of edits -/

/-- The bundle after several edits. -/
def editAll (edits : List Edit) (b : Bundle) : Bundle := edits.foldl (fun b e => e.after b) b

/-- No edit of a sequence takes an entry away. -/
def Stays {κ : Type} (leaving : Capabilities → Edit → List κ) (k : κ) :
    List Edit → Bundle → Prop
  | [], _ => True
  | e :: edits, b => k ∉ leaving b.capabilities e ∧ Stays leaving k edits (e.after b)

/-- A bundle to which nothing has been done. -/
inductive Fresh : Bundle → Prop where
  | empty : Fresh {}
  | assembled {cs : List Contribution} {b : Bundle} (h : assemble cs = .ok b) : Fresh b

variable {b : Bundle}

theorem indexed_collected {cs : List Contribution} (hcs : Compatible cs) :
    (collected cs).Indexed where
  parameters :=
    { distinct := by
        rw [keys_parameters_collected]
        exact hcs.names
      own := by
        intro e he
        obtain ⟨p, -, rfl⟩ := List.mem_map.1 he
        rfl }
  objects :=
    { distinct := by
        rw [OrderedMap.keys, collected, List.map_map]
        exact hcs.keys
      own := by
        intro e he
        obtain ⟨r, -, rfl⟩ := List.mem_map.1 he
        rfl }

theorem Fresh.indexed (hb : b.Fresh) : b.Indexed := by
  cases hb with
  | empty => exact ⟨.empty, .empty⟩
  | assembled h =>
      obtain ⟨hcs, rfl⟩ := assemble_eq_ok_iff.1 h
      exact indexed_collected hcs

theorem indexed_editAll (edits : List Edit) (hb : b.Indexed) : (editAll edits b).Indexed := by
  induction edits generalizing b with
  | nil => exact hb
  | cons e edits ih => exact ih (e.indexed_after hb)

theorem sublist_names_editAll {edits : List Edit} {names : List String}
    (hnames : names.Sublist b.parameters.keys)
    (hstay : ∀ name ∈ names, Stays Edit.leavingNames name edits b) :
    names.Sublist (editAll edits b).parameters.keys := by
  induction edits generalizing b with
  | nil => exact hnames
  | cons e edits ih =>
      have hafter := Edit.sublist_names_after hnames fun name hname => (hstay name hname).1
      exact ih hafter fun name hname => (hstay name hname).2

theorem sublist_keys_editAll {edits : List Edit} {keys : List ObjectKey}
    (hkeys : keys.Sublist b.objects.keys)
    (hstay : ∀ key ∈ keys, Stays Edit.leavingKeys key edits b) :
    keys.Sublist (editAll edits b).objects.keys := by
  induction edits generalizing b with
  | nil => exact hkeys
  | cons e edits ih =>
      have hafter := Edit.sublist_keys_after hkeys fun key hkey => (hstay key hkey).1
      exact ih hafter fun key hkey => (hstay key hkey).2

/-- Names and identities are pairwise distinct, and each finds its own entry and no other. -/
structure Findable (b : Bundle) : Prop where
  names : (b.parameters.values.map (·.name)).Nodup
  keys : (b.objects.values.map (·.key)).Nodup
  parameter? : ∀ name p, b.parameter? name = some p ↔ p ∈ b.parameters.values ∧ p.name = name
  object? : ∀ key r, b.object? key = some r ↔ r ∈ b.objects.values ∧ r.key = key

theorem Indexed.findable (hb : b.Indexed) : b.Findable where
  names := by
    rw [hb.parameters.map_values]
    exact hb.parameters.distinct
  keys := by
    rw [hb.objects.map_values]
    exact hb.objects.distinct
  parameter? _ _ := hb.parameters.get?_eq_some_iff
  object? _ _ := hb.objects.get?_eq_some_iff

/-- Edits leave a bundle in which everything is found under its own name.  One that is refused
changes nothing, any other moves nothing, and what none of them takes away keeps its order. -/
theorem edited_orderly {start : Bundle} (hstart : start.Fresh) (edits : List Edit) :
    (editAll edits start).Findable ∧
      (∀ e : Edit, (e.run (editAll edits start) = none ↔ e.Refused (editAll edits start)) ∧
        (e.run (editAll edits start) = none → e.after (editAll edits start) = editAll edits start) ∧
        ∀ b', e.run (editAll edits start) = some b' →
          e.after (editAll edits start) = b' ∧ e.Orderly (editAll edits start) b') ∧
      (∀ names : List String, names.Sublist start.parameters.keys →
        (∀ name ∈ names, Stays Edit.leavingNames name edits start) →
          names.Sublist (editAll edits start).parameters.keys) ∧
      ∀ keys : List ObjectKey, keys.Sublist start.objects.keys →
        (∀ key ∈ keys, Stays Edit.leavingKeys key edits start) →
          keys.Sublist (editAll edits start).objects.keys := by
  have hindexed : (editAll edits start).Indexed := indexed_editAll edits hstart.indexed
  refine ⟨hindexed.findable, fun e => ⟨Edit.run_eq_none_iff, Edit.after_of_run_eq_none, ?_⟩, ?_, ?_⟩
  · exact fun b' h => ⟨Edit.after_of_run_eq_some h, Edit.orderly h⟩
  · exact fun names => sublist_names_editAll
  · exact fun keys => sublist_keys_editAll

/-- A connection between two other Secrets is replaced by that of an external database. -/
def connectionEdits : List Edit :=
  [.pushObject (Catalog.secret "backend-redis" .empty []),
    .pushObject (Catalog.secret Catalog.databaseSecret .empty []),
    .pushObject (Catalog.secret "zync" .empty []),
    .mergeCapabilities { connectionSecrets := .ofList [Catalog.databaseSecret] },
    .apply (.highAvailability
      { appLabel := "amp"
        systemDatabaseUrl := "mysql2://database.example"
        systemRedisUrl := "redis://system.example"
        backendRedisStorageUrl := "redis://storage.example"
        backendRedisQueuesUrl := "redis://queues.example"
        replicas := 3 })]

theorem connectionEdits_findable :
    Fresh {} ∧ (editAll connectionEdits {}).Findable ∧
      (editAll connectionEdits {}).objects.values.map (·.name) =
        ["backend-redis", "system-database", "zync"] :=
  ⟨.empty, (edited_orderly .empty connectionEdits).1, by decide⟩

end ApiPlatform.Bundle
