import ApiPlatform.Proofs.Template.Generators
import ApiPlatform.Proofs.Template.Influence
import Mathlib.Data.List.Infix
/-!
# What the draws have an influence on

Two runs of a bundle with the same supplied values may draw different characters.  Whether they fail
does not depend on that, nor does a value that is not drawn, nor the length of a drawn one, although
each parameter draws what those before it left.  An object shows the difference only if the
placeholder of a drawn parameter stands in it.
-/

namespace ApiPlatform

namespace Parameter

/-- A parameter that has no other value than one that is drawn. -/
structure IsDrawn (p : Parameter) (supplied : Option String) : Prop where
  unsupplied : supplied = none
  undefaulted : p.value = none
  generates : ∃ text, p.Generates text

variable {p : Parameter} {supplied : Option String} {d d' : Draws} {value value' : String}

theorem Takes.unique (h : p.Takes supplied d value) (h' : p.Takes supplied d value') :
    value = value' := by
  have heq := (resolve_of_takes h).symm.trans (resolve_of_takes h')
  exact congrArg Prod.fst (Except.ok.inj heq)

theorem Takes.of_not_isDrawn (hp : ¬ p.IsDrawn supplied) (h : p.Takes supplied d value) :
    p.Takes supplied d' value := by
  cases h with
  | supplied hsupplied => exact .supplied hsupplied
  | default hsupplied hvalue => exact .default hsupplied hvalue
  | generated hsupplied hvalue hgenerates _ =>
      exact absurd ⟨hsupplied, hvalue, _, hgenerates⟩ hp
  | empty hsupplied hvalue hgenerates hrequired =>
      exact .empty hsupplied hvalue hgenerates hrequired

theorem Takes.exists_generate (hp : p.IsDrawn supplied) (h : p.Takes supplied d value) :
    ∃ e, p.expression?.bind Generator.Expression.ofText? = some e ∧ e.generate d = value := by
  obtain ⟨hunsupplied, hundefaulted, text, htext⟩ := hp
  cases h with
  | supplied hsupplied => cases hunsupplied.symm.trans hsupplied
  | default _ hvalue => cases hundefaulted.symm.trans hvalue
  | generated _ _ hgenerates he =>
      exact ⟨_, by rw [expression?_eq_some.2 hgenerates, Option.bind_some, he], rfl⟩
  | empty _ _ hgenerates _ => exact absurd htext (hgenerates text)

/-- Whatever is drawn, a parameter takes a value of the same length. -/
theorem Takes.length_eq (h : p.Takes supplied d value) (h' : p.Takes supplied d' value') :
    value.length = value'.length := by
  by_cases hp : p.IsDrawn supplied
  · obtain ⟨e, he, rfl⟩ := h.exists_generate hp
    obtain ⟨e', he', rfl⟩ := h'.exists_generate hp
    obtain rfl := Option.some.inj (he.symm.trans he')
    have hlength (d : Draws) : (e.generate d).length = e.length :=
      (Generator.Expression.exists_generate_eq_iff.1 ⟨d, rfl⟩).1
    rw [hlength, hlength]
  · rw [h.unique (h'.of_not_isDrawn hp)]

end Parameter

/-- Whether the placeholder of a name stands somewhere in a text of an object. -/
def Resource.HasPlaceholder (r : Resource) (name : String) : Prop :=
  ∃ s ∈ r.toJson.strings, (Placeholder.text name).toList <:+: s.toList

theorem Resource.Mentions.hasPlaceholder {r : Resource} {name : String} (h : r.Mentions name) :
    r.HasPlaceholder name := by
  obtain ⟨s, hs, hmentions⟩ := h
  refine ⟨s, hs, ?_⟩
  have htext : (Placeholder.text name).toList = Placeholder.reference name.toList [] := by
    simp [Placeholder.text, Placeholder.reference]
  exact htext ▸ Placeholder.reference_infix_of_mem_pieces hmentions

namespace Bundle

variable {b : Bundle} {supplied : SortedMap String String} {d d' : Draws} {r r' : Processed}
variable {value? value?' : String → Option String} {name : String}

/-- Whether some parameter of a name is drawn. -/
def IsDrawn (b : Bundle) (supplied : SortedMap String String) (name : String) : Prop :=
  ∃ p ∈ b.parameters.values, p.name = name ∧ p.IsDrawn (supplied.get? name)

/-- A name that occurs has a last declaration. -/
theorem exists_last_declaration {ps : List Parameter} (h : name ∈ ps.map (·.name)) :
    ∃ before p after, ps = before ++ p :: after ∧ p.name = name ∧ name ∉ after.map (·.name) := by
  induction ps with
  | nil => cases h
  | cons p ps ih =>
      by_cases hrest : name ∈ ps.map (·.name)
      · obtain ⟨before, q, after, rfl, hq, hlast⟩ := ih hrest
        exact ⟨p :: before, q, after, rfl, hq, hlast⟩
      · have hp : name = p.name := (List.mem_cons.1 h).resolve_right hrest
        exact ⟨[], p, ps, rfl, hp.symm, hrest⟩

/-- Two runs give a name no value, or values that one of its parameters takes. -/
theorem Processes.values_cases (h : b.Processes supplied d r) (h' : b.Processes supplied d' r')
    (name : String) :
    (r.values.get? name = none ∧ r'.values.get? name = none) ∨
      ∃ p ∈ b.parameters.values, p.name = name ∧ ∃ e e' value value',
        p.Takes (supplied.get? name) e value ∧ p.Takes (supplied.get? name) e' value' ∧
        r.values.get? name = some value ∧ r'.values.get? name = some value' := by
  by_cases hname : name ∈ b.parameters.values.map (·.name)
  · obtain ⟨before, p, after, hsplit, rfl, hlast⟩ := exists_last_declaration hname
    obtain ⟨value, hvalue, htakes⟩ := h.values before p after hsplit hlast
    obtain ⟨value', hvalue', htakes'⟩ := h'.values before p after hsplit hlast
    have hp : p ∈ b.parameters.values := by simp [hsplit]
    exact .inr ⟨p, hp, rfl, _, _, value, value', htakes, htakes', hvalue, hvalue'⟩
  · have hnone {r : Processed} (hr : r.values.contains name ↔ _) : r.values.get? name = none :=
      Option.not_isSome_iff_eq_none.1 (mt hr.1 hname)
    exact .inl ⟨hnone (h.names name), hnone (h'.names name)⟩

theorem Processes.get?_eq (h : b.Processes supplied d r) (h' : b.Processes supplied d' r')
    (hname : ¬ b.IsDrawn supplied name) : r.values.get? name = r'.values.get? name := by
  rcases h.values_cases h' name with
    ⟨hnone, hnone'⟩ | ⟨p, hp, hpname, e, e', value, value', htakes, htakes', hvalue, hvalue'⟩
  · rw [hnone, hnone']
  · have hdrawn : ¬ p.IsDrawn (supplied.get? name) := fun hdrawn => hname ⟨p, hp, hpname, hdrawn⟩
    rw [hvalue, hvalue', htakes.unique (htakes'.of_not_isDrawn hdrawn)]

theorem Processes.length_get?_eq (h : b.Processes supplied d r)
    (h' : b.Processes supplied d' r') (name : String) :
    (r.values.get? name).map String.length = (r'.values.get? name).map String.length := by
  rcases h.values_cases h' name with
    ⟨hnone, hnone'⟩ | ⟨p, hp, hpname, e, e', value, value', htakes, htakes', hvalue, hvalue'⟩
  · rw [hnone, hnone']
  · rw [hvalue, hvalue', Option.map_some, Option.map_some, htakes.length_eq htakes']

/-- Only the values of names that an object refers to matter to it. -/
theorem fillObject_congr {key : ObjectKey} {resource : Resource}
    (h : ∀ name, resource.Mentions name → value? name = value?' name) :
    fillObject value? key resource = fillObject value?' key resource := by
  have hsame : resource.toJson.mapStrings (Placeholder.replace value?) =
      resource.toJson.mapStrings (Placeholder.replace value?') :=
    Json.mapStrings_eq_iff.2 fun s hs =>
      Placeholder.replace_congr fun name hname => h name ⟨s, hs, hname⟩
  rw [fillObject, fillObject, hsame]

theorem exists_item_of_process (h : b.process supplied d = .ok r) {i : Nat}
    {e : ObjectKey × Resource} (he : b.objects.entries[i]? = some e) :
    ∃ item, r.items[i]? = some item ∧ fillObject r.values.get? e.1 e.2 = .ok item := by
  obtain ⟨hi, rfl⟩ := List.getElem?_eq_some_iff.1 he
  obtain ⟨hlength, hfill⟩ := List.forall₂_iff_get.1 (forall₂_of_process h)
  have hi' : i < r.items.length := hlength ▸ hi
  exact ⟨_, List.getElem?_eq_getElem hi', hfill i hi hi'⟩

/-- An object in which no placeholder of a drawn parameter stands comes out the same. -/
theorem exists_common_item (h : b.process supplied d = .ok r)
    (h' : b.process supplied d' = .ok r') {i : Nat} {object : Resource}
    (hobject : b.objects.values[i]? = some object)
    (hfree : ∀ name, b.IsDrawn supplied name → ¬ object.HasPlaceholder name) :
    ∃ item, r.items[i]? = some item ∧ r'.items[i]? = some item := by
  rw [OrderedMap.values, List.getElem?_map] at hobject
  obtain ⟨e, he, rfl⟩ := Option.map_eq_some_iff.1 hobject
  obtain ⟨item, hitem, hfill⟩ := exists_item_of_process h he
  obtain ⟨item', hitem', hfill'⟩ := exists_item_of_process h' he
  have hsame : fillObject r.values.get? e.1 e.2 = fillObject r'.values.get? e.1 e.2 := by
    refine fillObject_congr fun name hmentions => ?_
    refine (processes_of_process h).get?_eq (processes_of_process h') fun hdrawn => ?_
    exact hfree name hdrawn hmentions.hasPlaceholder
  rw [hsame, hfill'] at hfill
  obtain rfl := Except.ok.inj hfill
  exact ⟨item', hitem, hitem'⟩

/-- Whatever is drawn in two runs on the same supplied values, both fail in the same way, or the two
agree in every value that is not drawn, in the lengths of all values, and in every object that holds
no placeholder of a drawn parameter. -/
theorem process_confines_draws (b : Bundle) (supplied : SortedMap String String) (d d' : Draws) :
    (∀ e, b.process supplied d = .error e ↔ b.process supplied d' = .error e) ∧
      ∀ r r', b.process supplied d = .ok r → b.process supplied d' = .ok r' →
        (∀ name, ¬ b.IsDrawn supplied name → r.values.get? name = r'.values.get? name) ∧
        (∀ name, (r.values.get? name).map String.length =
          (r'.values.get? name).map String.length) ∧
        ∀ (i : Nat) (object : Resource), b.objects.values[i]? = some object →
          (∀ name, b.IsDrawn supplied name → ¬ object.HasPlaceholder name) →
          ∃ item, r.items[i]? = some item ∧ r'.items[i]? = some item := by
  refine ⟨fun e => process_eq_error.trans process_eq_error.symm, fun r r' h h' => ?_⟩
  have hruns := processes_of_process h
  have hruns' := processes_of_process h'
  exact ⟨fun name hname => hruns.get?_eq hruns' hname, hruns.length_get?_eq hruns',
    fun i object hobject hfree => exists_common_item h h' hobject hfree⟩

/-- The token of the greeting is drawn, and no text of the greeting refers to it. -/
theorem greeting_confines_draws :
    ∃ r r', greeting.process (.ofList [("NAME", "Ada"), ("UNUSED", "x")]) id = .ok r ∧
      greeting.process (.ofList [("NAME", "Ada"), ("UNUSED", "x")]) (fun _ => 0) = .ok r' ∧
      greeting.IsDrawn (.ofList [("NAME", "Ada"), ("UNUSED", "x")]) "TOKEN" ∧
      r.values.get? "NAME" = r'.values.get? "NAME" ∧
      ∃ item, r.items[0]? = some item ∧ r'.items[0]? = some item := by
  let supplied : SortedMap String String := .ofList [("NAME", "Ada"), ("UNUSED", "x")]
  obtain ⟨hfails, hagree⟩ := process_confines_draws greeting supplied id fun _ => 0
  have hisOk := isOk_process_greeting
  cases hprocess : greeting.process supplied id with
  | error e =>
      rw [hprocess] at hisOk
      cases hisOk
  | ok r =>
      cases hprocess' : greeting.process supplied fun _ => 0 with
      | error e => cases hprocess.symm.trans ((hfails e).2 hprocess')
      | ok r' =>
          have hdrawn : ∀ name, greeting.IsDrawn supplied name → name = "TOKEN" := by
            rintro name ⟨p, hp, rfl, hdrawn⟩
            simp only [greeting, OrderedMap.values, List.map_cons, List.map_nil, List.mem_cons,
              List.not_mem_nil, or_false] at hp
            obtain rfl | rfl | rfl := hp
            · cases hdrawn.undefaulted
            · obtain ⟨text, hgenerate, -⟩ := hdrawn.generates
              cases hgenerate
            · rfl
          obtain ⟨hvalues, -, hitems⟩ := hagree r r' hprocess hprocess'
          refine ⟨r, r', rfl, rfl, ⟨_, List.mem_of_getElem? (i := 2) rfl, rfl, ?_⟩, ?_, ?_⟩
          · exact ⟨by decide, rfl, _, rfl, rfl⟩
          · exact hvalues "NAME" fun h => absurd (hdrawn _ h) (by decide)
          · refine hitems 0 _ rfl fun name hname => ?_
            rw [hdrawn name hname]
            unfold Resource.HasPlaceholder
            decide +kernel

end Bundle

end ApiPlatform
