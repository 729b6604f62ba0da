import ApiPlatform.Proofs.Transform.Fate
/-!
# What becomes of every entry

Steps that put nothing in treat each entry of a bundle by itself, so their result can be written
down entry by entry (`Bundle.entries_runSteps`).  A map without repeated keys is told by its keys in
order and by what is found under them (`OrderedMap.ext_get?`), and the texts of a Secret or of a
ConfigMap by what was written over them (`Overwritten`).
-/

namespace ApiPlatform

namespace OrderedMap

variable {κ α : Type} [DecidableEq κ] {m n : OrderedMap κ α} {k : κ}

theorem get?_eq_none_iff : m.get? k = none ↔ k ∉ m.keys := by
  unfold get? keys
  rw [List.lookup_eq_none_iff, List.mem_map, not_exists]
  refine forall_congr' fun e => ?_
  rw [bne_iff_ne, not_and]
  exact forall_congr' fun _ => ne_comm

theorem entries_eq_filterMap (h : m.keys.Nodup) :
    m.entries = m.keys.filterMap fun k => (m.get? k).map (k, ·) := by
  have hfound : ∀ e ∈ m.entries, (m.get? e.1).map (e.1, ·) = some e := by
    intro e he
    rw [(get?_eq_some_iff_mem h).2 he]
    rfl
  unfold keys
  rw [List.filterMap_map]
  exact List.filterMap_some.symm.trans (List.filterMap_congr fun e he => (hfound e he).symm)

theorem ext_get? (h : m.keys.Nodup) (hkeys : n.keys = m.keys) (hget : ∀ k, n.get? k = m.get? k) :
    n = m := by
  have hn : n.keys.Nodup := hkeys.symm ▸ h
  have hentries : n.entries = m.entries := by
    rw [entries_eq_filterMap hn, entries_eq_filterMap h, hkeys, funext hget]
  exact congrArg mk hentries

end OrderedMap

namespace Resource

variable {r : Resource} {k : Kind}

/-- Which constructor an object has is told by its kind. -/
theorem exists_ofKind_eq (hr : r.kind = k) : ∃ o, ofKind k o = some r := by
  subst hr
  exact ⟨r.object, by cases r <;> rfl⟩

theorem kind_ne_of_isWorkload (hr : r.isWorkload) (hk : ¬ k.isWorkload) : r.kind ≠ k := by
  rintro rfl
  exact hk hr

end Resource

/-- The texts `d'` are those of `d` with new ones over some of them. -/
structure Overwritten (new : String → Option String) (d d' : Option (SortedMap String String)) :
    Prop where
  entries : ∀ k, (d'.getD .empty).get? k = (new k).or ((d.getD .empty).get? k)
  /-- Without new texts not even an empty map comes in. -/
  untouched : (∀ k, new k = none) → d' = d

namespace Overwritten

variable {new new' : String → Option String} {d d' d'' : Option (SortedMap String String)}

theorem refl (d : Option (SortedMap String String)) : Overwritten (fun _ => none) d d :=
  ⟨fun _ => rfl, fun _ => rfl⟩

theorem trans (h : Overwritten new d d') (h' : Overwritten new' d' d'') :
    Overwritten (fun k => (new' k).or (new k)) d d'' where
  entries k := by rw [h'.entries, h.entries, Option.or_assoc]
  untouched hnone := by
    have hboth := fun k => Option.or_eq_none_iff.1 (hnone k)
    rw [h'.untouched fun k => (hboth k).1, h.untouched fun k => (hboth k).2]

theorem insert (d : Option (SortedMap String String)) (k v : String) :
    Overwritten (fun k' => if k' = k then some v else none) d
      (some ((d.getD .empty).insert k v)) where
  entries k' := by
    have hget : ((d.getD .empty).insert k v).get? k' =
        if k' = k then some v else (d.getD .empty).get? k' := SortedMap.get?_insert ..
    rw [Option.getD_some, hget]
    split <;> rfl
  untouched hnone := absurd (hnone k) (by simp)

theorem unique (h : Overwritten new d d') (h' : Overwritten new d d'') : d' = d'' := by
  by_cases hnone : ∀ k, new k = none
  · rw [h.untouched hnone, h'.untouched hnone]
  · obtain ⟨k, hk⟩ := not_forall.1 hnone
    obtain ⟨v, hv⟩ := Option.ne_none_iff_exists'.1 hk
    have hsome : ∀ {e : Option (SortedMap String String)}, Overwritten new d e →
        e = some (e.getD .empty) := by
      intro e he
      have hentry := he.entries k
      cases e with
      | none => simp [hv] at hentry
      | some m => rfl
    have hsame : d'.getD .empty = d''.getD .empty :=
      SortedMap.ext_get? fun k => (h.entries k).trans (h'.entries k).symm
    rw [hsome h, hsome h', hsame]

end Overwritten

namespace Bundle

variable {steps : List Step}

theorem ext_entries {b b' : Bundle} (hparameters : b.parameters.entries = b'.parameters.entries)
    (hobjects : b.objects.entries = b'.objects.entries)
    (hcapabilities : b.capabilities = b'.capabilities) : b = b' := by
  obtain ⟨⟨parameters⟩, ⟨objects⟩, capabilities⟩ := b
  cases hparameters
  cases hobjects
  cases hcapabilities
  rfl

/-- What a step makes of an object that it leaves in the bundle. -/
def Step.revise (key : ObjectKey) : Step → Resource → Resource
  | .change f, r => f key r
  | _, r => r

/-- What a list of steps makes of an object that they leave in the bundle. -/
def revise (key : ObjectKey) (steps : List Step) (r : Resource) : Resource :=
  steps.foldl (fun r s => s.revise key r) r

theorem revise_append (key : ObjectKey) (first second : List Step) (r : Resource) :
    revise key (first ++ second) r = revise key second (revise key first r) :=
  List.foldl_append

theorem revise_eq_self {key : ObjectKey} {r : Resource} (h : ∀ s ∈ steps, s.revise key r = r) :
    revise key steps r = r := by
  induction steps with
  | nil => rfl
  | cons s steps ih =>
      obtain ⟨hs, hrest⟩ := List.forall_mem_cons.1 h
      unfold revise
      rw [List.foldl_cons, hs]
      exact ih hrest

theorem Step.ne_put {s : Step} (hs : ∀ b, s.joiningKeys b = []) (r : Resource) : s ≠ .put r := by
  rintro rfl
  have hnew : joiningKeys {} (.put r) = [r.key] := rfl
  exact List.cons_ne_nil r.key [] (hnew.symm.trans (hs {}))

theorem Step.entries_run {s : Step} (hs : ∀ b, s.joiningKeys b = []) (b : Bundle) :
    (s.run b).objects.entries =
      (b.objects.entries.filter (·.1 ∉ s.leavingKeys)).map fun e => (e.1, s.revise e.1 e.2) := by
  have hall : ∀ es : List (ObjectKey × Resource),
      (es.filter fun e => e.1 ∉ ([] : List ObjectKey)) = es := by
    simp
  cases s with
  | put r => exact absurd rfl (ne_put hs r)
  | remove key => simp [run, removeObject, OrderedMap.erase, leavingKeys, revise]
  | change f => exact congrArg (List.map _) (hall _).symm
  | removeParameter name => exact ((List.map_id _).trans (hall _)).symm
  | setDefault name value => exact ((List.map_id _).trans (hall _)).symm

/-- Steps that put nothing in take entries away and revise the others where they stand. -/
theorem entries_runSteps (hsteps : ∀ s ∈ steps, ∀ b, s.joiningKeys b = []) (b : Bundle) :
    (runSteps steps b).objects.entries =
      (b.objects.entries.filter (·.1 ∉ steps.flatMap Step.leavingKeys)).map fun e =>
        (e.1, revise e.1 steps e.2) := by
  induction steps generalizing b with
  | nil => simp [runSteps, revise]
  | cons s steps ih =>
      obtain ⟨hs, hrest⟩ := List.forall_mem_cons.1 hsteps
      rw [runSteps_cons, ih hrest, s.entries_run hs, List.filter_map, List.map_map,
        List.filter_filter, List.flatMap_cons]
      refine congrArg (List.map _) (List.filter_congr fun e _ => ?_)
      by_cases he : e.1 ∈ s.leavingKeys <;> simp [he]

/-- Steps that set no default take parameters away and leave the others as they are. -/
theorem parameters_runSteps (hsteps : ∀ s ∈ steps, ∀ name value, s ≠ .setDefault name value)
    (b : Bundle) :
    (runSteps steps b).parameters.entries =
      b.parameters.entries.filter (·.1 ∉ steps.flatMap Step.leavingNames) := by
  induction steps generalizing b with
  | nil => simp [runSteps]
  | cons s steps ih =>
      obtain ⟨hs, hrest⟩ := List.forall_mem_cons.1 hsteps
      have hrun : (s.run b).parameters.entries =
          b.parameters.entries.filter (·.1 ∉ s.leavingNames) := by
        cases s with
        | removeParameter name =>
            simp [Step.run, removeParameter, OrderedMap.erase, Step.leavingNames]
        | setDefault name value => exact absurd rfl (hs name value)
        | _ => simp [Step.run, Step.leavingNames, upsertObject, removeObject]
      rw [runSteps_cons, ih hrest, hrun, List.filter_filter, List.flatMap_cons]
      refine List.filter_congr fun e _ => ?_
      by_cases he : e.1 ∈ s.leavingNames <;> simp [he]

end Bundle

end ApiPlatform
