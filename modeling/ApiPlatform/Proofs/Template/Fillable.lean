import Mathlib.Data.List.Nodup
import ApiPlatform.Proofs.Json.Every
import ApiPlatform.Proofs.Template.Filling
import ApiPlatform.Proofs.Template.Separation
/-!
# Fillable bundles

A bundle can be filled if its objects refer to nothing but its parameters and their texts keep
references apart.  Whatever values without references are supplied, processing it leaves no
reference, and its objects keep their identities.
-/

namespace ApiPlatform

open Placeholder (HasReference Plain Fits plain_of_isPlain)

/-! ## The values of parameters -/

theorem Generator.Expression.plain_generate {e : Generator.Expression} (h : '{' ∉ e.alphabet)
    (d : Draws) : Plain (e.generate d) := by
  rw [Plain, generate, String.toList_ofList]
  intro hmem
  obtain ⟨i, -, hi⟩ := List.mem_map.1 hmem
  exact h (hi ▸ List.get_mem _ _)

namespace Parameter

/-- The values that a parameter takes of its own have no opening braces, and it generates one if it
states how. -/
structure Harmless (p : Parameter) : Prop where
  default : ∀ value ∈ p.value, Plain value
  generator : p.generate = none ∨
    ∃ text e, p.Generates text ∧ Generator.Expression.ofText? text = some e ∧ '{' ∉ e.alphabet

variable {p : Parameter} {supplied : Option String} {d : Draws} {value : String}

theorem Generates.unique {text text' : String} (h : p.Generates text) (h' : p.Generates text') :
    text = text' :=
  Option.some.inj (h.2.symm.trans h'.2)

theorem Harmless.not_lacks (hp : p.Harmless)
    (hneeded : p.required → p.value = none → p.generate = none → supplied.isSome)
    (e : BundleError) : ¬p.Lacks supplied e := by
  intro hlacks
  cases hlacks with
  | expression _ _ hgenerates htext =>
      rcases hp.generator with hnone | ⟨text, e, hgenerates', htext', -⟩
      · cases hnone.symm.trans hgenerates.1
      · rw [hgenerates.unique hgenerates', htext'] at htext
        cases htext
  | value hsupplied hvalue hgenerates hrequired =>
      rcases hp.generator with hnone | ⟨text, -, hgenerates', -⟩
      · have hsome := hneeded hrequired hvalue hnone
        rw [hsupplied] at hsome
        cases hsome
      · exact hgenerates text hgenerates'

theorem Harmless.not_hasReference (hp : p.Harmless)
    (hfree : ∀ value ∈ supplied, ¬HasReference value) (h : p.Takes supplied d value) :
    ¬HasReference value := by
  cases h with
  | supplied hsupplied => exact hfree value hsupplied
  | default _ hvalue => exact (hp.default value hvalue).not_hasReference
  | generated _ _ hgenerates htext =>
      rcases hp.generator with hnone | ⟨text, e, hgenerates', htext', halphabet⟩
      · cases hnone.symm.trans hgenerates.1
      · rw [hgenerates.unique hgenerates', htext'] at htext
        obtain rfl := Option.some.inj htext
        exact (Generator.Expression.plain_generate halphabet d).not_hasReference
  | empty _ _ _ _ =>
      have hplain : Plain "" := plain_of_isPlain (by decide)
      exact hplain.not_hasReference

end Parameter

namespace Bundle

variable {supplied : SortedMap String String} {ps : List Parameter} {d : Draws}
variable {values : List (String × String)}

theorem forall_mem_of_resolveParameters {P : String → Prop}
    (hP : ∀ p ∈ ps, ∀ d value, p.Takes (supplied.get? p.name) d value → P value)
    (h : resolveParameters supplied ps d = .ok values) : ∀ e ∈ values, P e.2 := by
  induction ps generalizing d values with
  | nil =>
      cases h
      exact List.forall_mem_nil _
  | cons p ps ih =>
      obtain ⟨hp, hrest⟩ := List.forall_mem_cons.1 hP
      obtain ⟨⟨value, d'⟩, hresolve, h⟩ := Failure.bind_eq_ok.1 h
      obtain ⟨values', hvalues, heq⟩ := Failure.bind_eq_ok.1 h
      cases heq
      have htakes := (Parameter.resolve_eq_ok.1 hresolve).1
      exact List.forall_mem_cons.2 ⟨hp d value htakes, ih hrest hvalues⟩

end Bundle

/-! ## Objects -/

theorem Kind.plain_types (k : Kind) : Plain k.name ∧ Plain k.apiVersion := by
  have hall : ∀ k : Kind, Placeholder.isPlain k.name ∧ Placeholder.isPlain k.apiVersion := by
    decide
  exact ⟨plain_of_isPlain (hall k).1, plain_of_isPlain (hall k).2⟩

theorem Kind.ofName?_name (k : Kind) : Kind.ofName? k.name = some k := by
  cases k <;> decide

/-- Other texts in metadata are the texts that they stand for. -/
theorem ObjectMeta.names_of_mapStrings {f : String → String} {m m' : ObjectMeta}
    (h : (codec.encode m).mapStrings f = codec.encode m') :
    m'.name = m.name.map f ∧ m'.namespace = m.namespace.map f := by
  have hentries := Json.obj.inj h
  rw [Json.mapStringsInEntries_eq] at hentries
  have hpick : ∀ p : String → Bool, _ = _ := fun p => congrArg (List.filter (p ·.1)) hentries
  simp only [Fields.iso, List.filter_map, Function.comp_def, Fields.filter_encode_and,
    Fields.filter_encode_optional] at hpick
  have hsame : ∀ {key : String} {s s' : Option String},
      ((Fields.optional key Codec.string).encode s).map (fun e => (e.1, e.2.mapStrings f)) =
        (Fields.optional key Codec.string).encode s' → s' = s.map f := by
    intro key s s' heq
    cases s <;> cases s' <;> simp_all [Fields.optional, Codec.string, Json.mapStrings]
  constructor
  · exact hsame (by simpa using hpick (· == "name"))
  · exact hsame (by simpa using hpick (· == "namespace"))

namespace DynamicObject

/-- The identity of an object that states a known kind and its version. -/
def identity? (o : DynamicObject) : Option ObjectKey :=
  match o.types with
  | some types =>
    match Kind.ofName? types.kind with
    | some kind =>
      if types.apiVersion = kind.apiVersion then
        some { kind, «namespace» := o.metadata.namespace, name := o.metadata.name.getD "" }
      else none
    | none => none
  | none => none

/-- An object with other texts in it has the same identity if the texts of its identity stay. -/
theorem identity?_of_ofJson? {f : String → String} {r : Resource} {o : DynamicObject}
    (hkind : f r.kind.name = r.kind.name) (hversion : f r.kind.apiVersion = r.kind.apiVersion)
    (hname : r.metadata.name.map f = r.metadata.name)
    (hnamespace : r.metadata.namespace.map f = r.metadata.namespace)
    (h : ofJson? (r.toJson.mapStrings f) = some o) : o.identity? = some r.key := by
  obtain ⟨entries, m, hmapped, hm, hfilter⟩ := filter_owns_mapStrings f r
  obtain ⟨hname', hnamespace'⟩ := ObjectMeta.names_of_mapStrings hm
  rw [hmapped, ofJson?_of_filter hfilter] at h
  obtain rfl := Option.some.inj h
  simp only [identity?, hkind, hversion, Kind.ofName?_name, hname', hnamespace', hname, hnamespace]
  rfl

end DynamicObject

namespace Resource

/-- An object whose texts fit declared names, and whose keys and identity are plain. -/
structure Fillable (declared : String → Prop) (r : Resource) : Prop where
  texts : r.toJson.Every Plain (Fits declared)
  name : ∀ name ∈ r.metadata.name, Plain name
  «namespace» : ∀ ns ∈ r.metadata.namespace, Plain ns

variable {declared declared' : String → Prop} {r : Resource}

theorem Fillable.mono (h : r.Fillable declared) (hle : ∀ name, declared name → declared' name) :
    r.Fillable declared' :=
  ⟨h.texts.mono (fun _ hk => hk) fun _ hs => hs.mono hle, h.name, h.namespace⟩

end Resource

namespace Bundle

variable {value? : String → Option String} {supplied : SortedMap String String} {d : Draws}
variable {declared : String → Prop} {b : Bundle}

theorem forall₂_of_fillObjects {es : List (ObjectKey × Resource)} {os : List DynamicObject}
    (h : fillObjects value? es = .ok os) :
    List.Forall₂ (fun e o => fillObject value? e.1 e.2 = .ok o) es os := by
  induction es generalizing os with
  | nil =>
      cases h
      exact .nil
  | cons e es ih =>
      obtain ⟨o, hfill, h⟩ := Failure.bind_eq_ok.1 h
      obtain ⟨os', hfills, heq⟩ := Failure.bind_eq_ok.1 h
      cases heq
      exact .cons hfill (ih hfills)

theorem forall₂_of_process {r : Processed} (h : b.process supplied d = .ok r) :
    List.Forall₂ (fun e o => fillObject r.values.get? e.1 e.2 = .ok o) b.objects.entries
      r.items := by
  obtain ⟨values, -, hrest⟩ := Failure.bind_eq_ok.1 h
  obtain ⟨items, hfill, heq⟩ := Failure.bind_eq_ok.1 hrest
  cases heq
  exact forall₂_of_fillObjects hfill

theorem ofJson?_of_fillObject {key : ObjectKey} {r : Resource} {o : DynamicObject}
    (h : fillObject value? key r = .ok o) :
    DynamicObject.ofJson? (r.toJson.mapStrings (Placeholder.replace value?)) = some o := by
  unfold fillObject at h
  split at h
  · next o' hread =>
      cases h
      exact hread
  · cases h

/-- A filled object has the identity of its resource and no references. -/
theorem identity_and_free_of_fillObject {key : ObjectKey} {r : Resource} {o : DynamicObject}
    (hr : r.Fillable declared) (hdeclared : ∀ name, declared name → (value? name).isSome)
    (hfree : ∀ name value, value? name = some value → ¬HasReference value)
    (h : fillObject value? key r = .ok o) :
    o.identity? = some r.key ∧ o.toJson.Every (¬HasReference ·) (¬HasReference ·) := by
  have hread := ofJson?_of_fillObject h
  obtain ⟨hkind, hversion⟩ := r.kind.plain_types
  have hsame : ∀ t : Option String, (∀ s ∈ t, Plain s) →
      t.map (Placeholder.replace value?) = t := by
    intro t ht
    cases t with
    | none => rfl
    | some s => exact congrArg some (ht s rfl).replace_eq
  refine ⟨DynamicObject.identity?_of_ofJson? hkind.replace_eq hversion.replace_eq
    (hsame _ hr.name) (hsame _ hr.namespace) hread, ?_⟩
  obtain ⟨o', hread', hentries⟩ :=
    DynamicObject.exists_ofJson?_mapStrings (Placeholder.replace value?) r
  obtain rfl := Option.some.inj (hread.symm.trans hread')
  have hmapped := hr.texts.mapStrings (T := (¬HasReference ·))
    fun s hs => hs.not_hasReference_replace hdeclared hfree
  exact hentries.every (hmapped.mono (fun _ hk => hk.not_hasReference) fun _ hs => hs)

theorem identities_and_free {es : List (ObjectKey × Resource)} {os : List DynamicObject}
    (hes : ∀ e ∈ es, e.1 = e.2.key ∧ e.2.Fillable declared)
    (hdeclared : ∀ name, declared name → (value? name).isSome)
    (hfree : ∀ name value, value? name = some value → ¬HasReference value)
    (h : List.Forall₂ (fun e o => fillObject value? e.1 e.2 = .ok o) es os) :
    os.map (·.identity?) = es.map (fun e => some e.1) ∧
      ∀ o ∈ os, o.toJson.Every (¬HasReference ·) (¬HasReference ·) := by
  induction h with
  | nil => exact ⟨rfl, List.forall_mem_nil _⟩
  | @cons e o es os hfill _ ih =>
      obtain ⟨⟨hkey, he⟩, hrest⟩ := List.forall_mem_cons.1 hes
      obtain ⟨hidentity, hfreed⟩ := identity_and_free_of_fillObject he hdeclared hfree hfill
      obtain ⟨hidentities, hall⟩ := ih hrest
      refine ⟨?_, List.forall_mem_cons.2 ⟨hfreed, hall⟩⟩
      rw [List.map_cons, List.map_cons, hidentity, hkey, hidentities]

/-- A bundle whose objects, each under its own identity, refer to nothing but its parameters. -/
structure Fillable (b : Bundle) : Prop where
  keyed : ∀ e ∈ b.objects.entries, e.1 = e.2.key
  distinct : b.objects.keys.Nodup
  objects : ∀ e ∈ b.objects.entries,
    e.2.Fillable fun name => name ∈ b.parameters.values.map (·.name)
  parameters : ∀ p ∈ b.parameters.values, p.Harmless

/-- Each parameter that has to be supplied is supplied. -/
def Sufficient (b : Bundle) (supplied : SortedMap String String) : Prop :=
  ∀ p ∈ b.parameters.values, p.required → p.value = none → p.generate = none →
    supplied.contains p.name

/-- What processing a fillable bundle gives. -/
structure Completes (b : Bundle) (r : Processed) : Prop where
  /-- No key and no other string holds a reference. -/
  free : ∀ j ∈ r.objects, ∀ s ∈ j.keys ++ j.strings, ¬HasReference s
  /-- The objects are those of the bundle, in order. -/
  identities : r.items.map (·.identity?) = b.objects.keys.map some
  distinct : (r.items.map (·.identity?)).Nodup

theorem Fillable.exists_process (hb : b.Fillable) (hsufficient : b.Sufficient supplied)
    (d : Draws) :
    ∃ r, b.process supplied d = .ok r := by
  cases hprocess : b.process supplied d with
  | ok r => exact ⟨r, rfl⟩
  | error e =>
      obtain ⟨before, p, after, hsplit, -, hlacks⟩ := process_eq_error.1 hprocess
      have hp : p ∈ b.parameters.values := by simp [hsplit]
      exact absurd hlacks ((hb.parameters p hp).not_lacks (hsufficient p hp) e)

/-- Processing puts a value without references in the place of every declared name. -/
theorem Fillable.filled {r : Processed} (hb : b.Fillable)
    (hfree : ∀ name value, supplied.get? name = some value → ¬HasReference value)
    (h : b.process supplied d = .ok r) :
    (∀ name ∈ b.parameters.values.map (·.name), (r.values.get? name).isSome) ∧
      (∀ name value, r.values.get? name = some value → ¬HasReference value) ∧
      List.Forall₂ (fun e o => fillObject r.values.get? e.1 e.2 = .ok o) b.objects.entries
        r.items := by
  have hnames := (processes_of_process h).names
  refine ⟨fun name hname => (hnames name).2 hname, fun name value hvalue => ?_,
    forall₂_of_process h⟩
  obtain ⟨values, hresolve, hrest⟩ := Failure.bind_eq_ok.1 h
  obtain ⟨items, -, heq⟩ := Failure.bind_eq_ok.1 hrest
  cases heq
  have htakes : ∀ p ∈ b.parameters.values, ∀ d value, p.Takes (supplied.get? p.name) d value →
      ¬HasReference value :=
    fun p hp d value => (hb.parameters p hp).not_hasReference fun value => hfree p.name value
  exact forall_mem_of_resolveParameters htakes hresolve _ (SortedMap.mem_of_get?_ofList hvalue)

theorem Fillable.completes {r : Processed} (hb : b.Fillable)
    (hfree : ∀ name value, supplied.get? name = some value → ¬HasReference value)
    (h : b.process supplied d = .ok r) : b.Completes r := by
  obtain ⟨hdeclared, hvalues, hitems⟩ := hb.filled hfree h
  have hentries : ∀ e ∈ b.objects.entries,
      e.1 = e.2.key ∧ e.2.Fillable fun name => name ∈ b.parameters.values.map (·.name) :=
    fun e he => ⟨hb.keyed e he, hb.objects e he⟩
  obtain ⟨hidentities, hfreed⟩ := identities_and_free hentries hdeclared hvalues hitems
  have hkeys : r.items.map (·.identity?) = b.objects.keys.map some := by
    rw [hidentities, OrderedMap.keys, List.map_map]
    rfl
  refine ⟨fun j hj s hs => ?_, hkeys, ?_⟩
  · obtain ⟨o, ho, rfl⟩ := List.mem_map.1 hj
    exact (List.mem_append.1 hs).elim ((hfreed o ho).1 s) ((hfreed o ho).2 s)
  · rw [hkeys]
    exact List.Nodup.map (fun _ _ => Option.some.inj) hb.distinct

end Bundle

end ApiPlatform
