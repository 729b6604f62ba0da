import ApiPlatform.Proofs.Template.Placeholders
import ApiPlatform.Proofs.Template.ReadingBack
import ApiPlatform.Proofs.Template.Resolution
/-!
# Processed bundles

Processing a bundle fails only where a parameter has no value.  Otherwise every declared parameter
has the value that it takes, and the objects are those of the bundle with the values substituted in
one pass; that they can be read back always is what keeps processing from failing there.
-/

namespace ApiPlatform.Bundle

variable {value? : String → Option String} {supplied : SortedMap String String} {d : Draws}

/-- An object in its written form with the strings substituted and nothing else changed. -/
def Fills (value? : String → Option String) (r : Resource) (o : DynamicObject) : Prop :=
  ∃ j, Json.StringsChanged (fun s t => Placeholder.Substituted value? s.toList t.toList)
      r.toJson j ∧ o.toJson.SameEntries j

theorem exists_fillObject (value? : String → Option String) (key : ObjectKey) (r : Resource) :
    ∃ o, fillObject value? key r = .ok o ∧ Fills value? r o := by
  obtain ⟨o, hread, hsame⟩ :=
    DynamicObject.exists_ofJson?_mapStrings (Placeholder.replace value?) r
  have hstrings : ∀ s t : String, Placeholder.Substituted value? s.toList t.toList ↔
      t = Placeholder.replace value? s := fun _ _ => Placeholder.substituted_iff
  refine ⟨o, ?_, _, (Json.stringsChanged_iff hstrings).2 rfl, hsame⟩
  rw [fillObject, hread]

theorem exists_fillObjects (value? : String → Option String) (es : List (ObjectKey × Resource)) :
    ∃ os, fillObjects value? es = .ok os ∧ List.Forall₂ (Fills value?) (es.map (·.2)) os := by
  induction es with
  | nil => exact ⟨[], rfl, .nil⟩
  | cons e es ih =>
      obtain ⟨o, hfill, ho⟩ := exists_fillObject value? e.1 e.2
      obtain ⟨os, hfills, hos⟩ := ih
      refine ⟨o :: os, ?_, .cons ho hos⟩
      rw [fillObjects, hfill, hfills]
      rfl

/-- What processing a bundle gives. -/
structure Processes (b : Bundle) (supplied : SortedMap String String) (d : Draws)
    (r : Processed) : Prop where
  /-- The names are the declared ones. -/
  names : ∀ name, r.values.contains name ↔ name ∈ b.parameters.values.map (·.name)
  /-- Each parameter has the value that it takes; the last declaration of a name counts. -/
  values : ∀ before p after, b.parameters.values = before ++ p :: after →
    p.name ∉ after.map (·.name) → ∃ value, r.values.get? p.name = some value ∧
      p.Takes (supplied.get? p.name) (d.drop (drawnBy supplied before)) value
  /-- The objects are those of the bundle, in order, with the values in their strings. -/
  objects : List.Forall₂ (Fills r.values.get?) b.objects.values r.items

theorem process_cases (b : Bundle) (supplied : SortedMap String String) (d : Draws) :
    (∃ e, b.process supplied d = .error e ∧
        resolveParameters supplied b.parameters.values d = .error e) ∨
      ∃ values items, b.process supplied d = .ok ⟨.ofList values, items⟩ ∧
        resolveParameters supplied b.parameters.values d = .ok values ∧
        List.Forall₂ (Fills (SortedMap.ofList values).get?) b.objects.values items := by
  cases hresolve : resolveParameters supplied b.parameters.values d with
  | error e =>
      refine .inl ⟨e, ?_, rfl⟩
      rw [process, hresolve]
      rfl
  | ok values =>
      obtain ⟨items, hfill, hitems⟩ :=
        exists_fillObjects (SortedMap.ofList values).get? b.objects.entries
      refine .inr ⟨values, items, ?_, rfl, hitems⟩
      rw [process, hresolve]
      change (fillObjects (SortedMap.ofList values).get? b.objects.entries >>= _) = _
      rw [hfill]
      rfl

theorem process_eq_error {b : Bundle} {e : BundleError} :
    b.process supplied d = .error e ↔ FirstLacking supplied b.parameters.values e := by
  rw [← resolveParameters_eq_error (d := d)]
  rcases b.process_cases supplied d with
    ⟨e', hprocess, hresolve⟩ | ⟨values, items, hprocess, hresolve, -⟩
  · rw [hprocess, hresolve]
    simp
  · rw [hprocess, hresolve]
    simp

theorem processes_of_process {b : Bundle} {r : Processed} (h : b.process supplied d = .ok r) :
    b.Processes supplied d r := by
  rcases b.process_cases supplied d with
    ⟨e, hprocess, -⟩ | ⟨values, items, hprocess, hresolve, hitems⟩
  · cases h.symm.trans hprocess
  · cases h.symm.trans hprocess
    refine ⟨fun name => ?_, fun before p after hsplit hlast => ?_, hitems⟩
    · rw [SortedMap.contains_iff_mem_keys, SortedMap.mem_keys_ofList,
        map_fst_of_resolveParameters hresolve]
    · rw [hsplit] at hresolve
      obtain ⟨front, value, back, rfl, hback, htakes⟩ :=
        exists_value_of_resolveParameters hresolve
      exact ⟨value, SortedMap.get?_ofList_of_notMem (hback ▸ hlast), htakes⟩

/-- Processing is resolution in the order of declaration and substitution in one pass. -/
theorem process_resolves_and_substitutes (b : Bundle) (supplied : SortedMap String String)
    (d : Draws) :
    (∀ e, b.process supplied d = .error e ↔ FirstLacking supplied b.parameters.values e) ∧
      (∀ key, b.process supplied d ≠ .error (.serializeObject key) ∧
        b.process supplied d ≠ .error (.deserializeObject key)) ∧
      (∀ r, b.process supplied d = .ok r → b.Processes supplied d r) ∧
      ∀ supplied' : SortedMap String String,
        (∀ name ∈ b.parameters.values.map (·.name), supplied.get? name = supplied'.get? name) →
        b.process supplied d = b.process supplied' d := by
  have hlacking : ∀ key, ¬ FirstLacking supplied b.parameters.values (.serializeObject key) ∧
      ¬ FirstLacking supplied b.parameters.values (.deserializeObject key) := by
    intro key
    constructor <;> rintro ⟨_, _, _, -, -, hlacks⟩ <;> cases hlacks
  refine ⟨fun e => process_eq_error, fun key => ?_, fun r => processes_of_process, ?_⟩
  · rw [ne_eq, ne_eq, process_eq_error, process_eq_error]
    exact hlacking key
  · intro supplied' hagree
    have hresolve := resolveParameters_congr
      (fun p hp => hagree p.name (List.mem_map_of_mem hp)) d
    rw [process, process, hresolve]

/-- A greeting that refers to its parameters, to one that is not declared, and across braces. -/
def greeting : Bundle :=
  let text : Labels := .ofList
    [("text", "$\x7bGREETING\x7d, $\x7bNAME\x7d$\x7bOTHER\x7d$\x7b$\x7bNAME\x7d")]
  let parameters : List Parameter :=
    [{ name := "GREETING", value := some ("Hello " ++ Placeholder.text "NAME") }, .needed "NAME",
      Parameter.generated { name := "TOKEN" } "[a-z]\x7b4\x7d"]
  { parameters := ⟨parameters.map fun p => (p.name, p)⟩
    objects := ⟨[(.template .configMap "greeting",
      .configMap { metadata := { name := some "greeting" }, data := some text })]⟩ }

theorem isOk_process_greeting :
    (greeting.process (.ofList [("NAME", "Ada"), ("UNUSED", "x")]) id).isOk := by
  decide +kernel

theorem greeting_processes :
    ∃ r, greeting.process (.ofList [("NAME", "Ada"), ("UNUSED", "x")]) id = .ok r ∧
      greeting.Processes (.ofList [("NAME", "Ada"), ("UNUSED", "x")]) id r := by
  obtain ⟨-, -, hok, -⟩ :=
    process_resolves_and_substitutes greeting (.ofList [("NAME", "Ada"), ("UNUSED", "x")]) id
  have hisOk := isOk_process_greeting
  cases hprocess : greeting.process (.ofList [("NAME", "Ada"), ("UNUSED", "x")]) id with
  | error e =>
      rw [hprocess] at hisOk
      cases hisOk
  | ok r => exact ⟨r, rfl, hok r hprocess⟩

end ApiPlatform.Bundle
