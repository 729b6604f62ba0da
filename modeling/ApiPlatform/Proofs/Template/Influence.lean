import ApiPlatform.Proofs.Template.Fillable
import ApiPlatform.Proofs.Template.Pieces
/-!
# Parameters that matter

If every parameter is supplied, then each takes the supplied value and nothing is drawn.  Two such
sets of values that differ in one parameter make a difference to the objects exactly if one of their
texts mentions it, whatever the values are.
-/

namespace ApiPlatform

open Placeholder (replace)

/-- Whether a text of an object refers to a name. -/
def Resource.Mentions (r : Resource) (name : String) : Prop :=
  ∃ s ∈ r.toJson.strings, Placeholder.Mentions s name

theorem Resource.Fillable.declared_of_mentions {declared : String → Prop} {r : Resource}
    {name : String} (hr : r.Fillable declared) (h : r.Mentions name) : declared name := by
  obtain ⟨s, hs, hmentions⟩ := h
  exact (hr.texts.2 s hs).declared_of_mentions hmentions

namespace Bundle

variable {value? value?' : String → Option String} {supplied supplied' : SortedMap String String}
variable {ps : List Parameter} {b : Bundle} {r : Processed} {d : Draws} {name : String}

/-! ## Supplied values -/

/-- Every parameter is supplied. -/
def SuppliedBy (b : Bundle) (supplied : SortedMap String String) : Prop :=
  ∀ p ∈ b.parameters.values, supplied.contains p.name

theorem exists_resolveParameters (h : ∀ p ∈ ps, supplied.contains p.name) (d : Draws) :
    ∃ values, resolveParameters supplied ps d = .ok values ∧
      ∀ e ∈ values, supplied.get? e.1 = some e.2 := by
  induction ps generalizing d with
  | nil => exact ⟨[], rfl, List.forall_mem_nil _⟩
  | cons p ps ih =>
      obtain ⟨hp, hrest⟩ := List.forall_mem_cons.1 h
      obtain ⟨value, hvalue⟩ := Option.isSome_iff_exists.1 hp
      obtain ⟨values, hvalues, hall⟩ := ih hrest (d.drop (p.drawn (supplied.get? p.name)))
      refine ⟨(p.name, value) :: values, ?_, List.forall_mem_cons.2 ⟨hvalue, hall⟩⟩
      rw [resolveParameters_of_takes (.supplied hvalue), hvalues]
      rfl

/-- The values of a bundle are the supplied ones, and values of other names are left aside. -/
theorem exists_process_of_supplied (h : b.SuppliedBy supplied) (d : Draws) :
    ∃ r, b.process supplied d = .ok r ∧ ∀ name,
      r.values.get? name =
        if name ∈ b.parameters.values.map (·.name) then supplied.get? name else none := by
  obtain ⟨values, hvalues, hall⟩ := exists_resolveParameters h d
  rcases b.process_cases supplied d with
    ⟨e, -, hresolve⟩ | ⟨values', items, hprocess, hresolve, -⟩
  · cases hvalues.symm.trans hresolve
  · cases hvalues.symm.trans hresolve
    refine ⟨_, hprocess, fun name => ?_⟩
    have hnames := (processes_of_process hprocess).names name
    split
    · next hname =>
        obtain ⟨value, hvalue⟩ := Option.isSome_iff_exists.1 (hnames.2 hname)
        rw [hvalue]
        exact (hall _ (SortedMap.mem_of_get?_ofList hvalue)).symm
    · next hname =>
        exact Option.not_isSome_iff_eq_none.1 fun hsome => hname (hnames.1 hsome)

/-! ## Filled objects -/

theorem toJson_eq_iff {key : ObjectKey} {r : Resource} {o o' : DynamicObject}
    (h : fillObject value? key r = .ok o) (h' : fillObject value?' key r = .ok o') :
    o.toJson = o'.toJson ↔
      ∀ s ∈ r.toJson.strings, replace value? s = replace value?' s := by
  obtain ⟨j, hsame, harranged⟩ := DynamicObject.exists_arranged r
  rw [harranged _ _ (ofJson?_of_fillObject h), harranged _ _ (ofJson?_of_fillObject h'),
    Json.mapStrings_eq_iff]
  simp only [hsame.mem_strings]

theorem map_toJson_eq_iff {es : List (ObjectKey × Resource)} {os os' : List DynamicObject}
    (h : List.Forall₂ (fun e o => fillObject value? e.1 e.2 = .ok o) es os)
    (h' : List.Forall₂ (fun e o => fillObject value?' e.1 e.2 = .ok o) es os') :
    os.map (·.toJson) = os'.map (·.toJson) ↔
      ∀ e ∈ es, ∀ s ∈ e.2.toJson.strings, replace value? s = replace value?' s := by
  induction h generalizing os' with
  | nil =>
      cases h'
      simp
  | cons hfill _ ih =>
      cases h' with
      | cons hfill' hrest' =>
          rw [List.map_cons, List.map_cons, List.cons_eq_cons, toJson_eq_iff hfill hfill',
            ih hrest', List.forall_mem_cons]

/-! ## Mentioned parameters -/

/-- Whether a text of some object refers to a name. -/
def Mentions (b : Bundle) (name : String) : Prop := ∃ r ∈ b.objects.values, r.Mentions name

/-- Two sets of values for all parameters that differ in one of them. -/
structure DifferAt (b : Bundle) (name : String) (supplied supplied' : SortedMap String String) :
    Prop where
  declared : name ∈ b.parameters.values.map (·.name)
  first : b.SuppliedBy supplied
  second : b.SuppliedBy supplied'
  others : ∀ other, other ≠ name → supplied.get? other = supplied'.get? other
  differ : supplied.get? name ≠ supplied'.get? name

/-- Both of two such sets give objects, and these differ exactly if the parameter is mentioned. -/
theorem DifferAt.objects_ne_iff (h : b.DifferAt name supplied supplied') (d d' : Draws) :
    ∃ r r', b.process supplied d = .ok r ∧ b.process supplied' d' = .ok r' ∧
      (r.objects ≠ r'.objects ↔ b.Mentions name) := by
  obtain ⟨r, hprocess, hvalues⟩ := exists_process_of_supplied h.first d
  obtain ⟨r', hprocess', hvalues'⟩ := exists_process_of_supplied h.second d'
  have hobjects := map_toJson_eq_iff (forall₂_of_process hprocess) (forall₂_of_process hprocess')
  have hsame : ∀ other, other ≠ name → r.values.get? other = r'.values.get? other := by
    intro other hother
    rw [hvalues, hvalues', h.others other hother]
  refine ⟨r, r', hprocess, hprocess', ?_, ?_⟩
  · intro hne
    by_contra hnot
    refine hne (hobjects.2 fun e he s hs => Placeholder.replace_congr fun other hother => ?_)
    refine hsame other ?_
    rintro rfl
    exact hnot ⟨e.2, OrderedMap.mem_values.2 ⟨e.1, he⟩, s, hs, hother⟩
  · rintro ⟨resource, hresource, s, hs, hmentions⟩ heq
    obtain ⟨key, he⟩ := OrderedMap.mem_values.1 hresource
    obtain ⟨p, hp, hname⟩ := List.mem_map.1 h.declared
    obtain ⟨value, hvalue⟩ := Option.isSome_iff_exists.1 (h.first p hp)
    obtain ⟨value', hvalue'⟩ := Option.isSome_iff_exists.1 (h.second p hp)
    rw [hname] at hvalue hvalue'
    have hdistinct : value ≠ value' := by
      rintro rfl
      exact h.differ (hvalue.trans hvalue'.symm)
    refine Placeholder.replace_ne hmentions hsame ?_ ?_ hdistinct (hobjects.1 heq _ he s hs)
    · rw [hvalues, if_pos h.declared, hvalue]
    · rw [hvalues', if_pos h.declared, hvalue']

end Bundle

end ApiPlatform
