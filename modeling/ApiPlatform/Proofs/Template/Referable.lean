import ApiPlatform.Proofs.Template.Influence
import Mathlib.Tactic.TFAE
/-!
# Parameters that can be referred to

A bundle accepts parameters of any name, but only names of upper case letters, digits and
underscores are read in a text.  So the placeholder of a parameter is replaced by its value in every
place of every object exactly if the parameter has such a name.
-/

namespace ApiPlatform

/-! ## Places in a tree -/

namespace Json

/-- A step down into a tree. -/
inductive Step where
  | entry (key : String)
  | item (i : Nat)

/-- The value at a place, which is told by the steps that lead there from the root. -/
def at? : List Step → Json → Option Json
  | [], j => some j
  | .entry key :: path, j => (j.field? key).bind (at? path)
  | .item i :: path, .arr items => items[i]?.bind (at? path)
  | .item _ :: _, _ => none

variable {f : String → String}

theorem field?_mapStrings (f : String → String) (key : String) (j : Json) :
    (j.mapStrings f).field? key = (j.field? key).map (mapStrings f) := by
  cases j with
  | obj entries =>
      rw [mapStrings, mapStringsInEntries_eq, field?, field?]
      induction entries with
      | nil => rfl
      | cons e entries ih =>
          rw [List.map_cons, List.lookup_cons, List.lookup_cons, ih]
          cases key == e.1 <;> rfl
  | _ => rfl

theorem at?_mapStrings (f : String → String) (path : List Step) (j : Json) :
    (j.mapStrings f).at? path = (j.at? path).map (mapStrings f) := by
  induction path generalizing j with
  | nil => rfl
  | cons step path ih =>
      have hbind : ∀ child : Option Json, (child.map (mapStrings f)).bind (at? path) =
          (child.bind (at? path)).map (mapStrings f) := by
        intro child
        cases child with
        | none => rfl
        | some child => exact ih child
      cases step with
      | entry key => rw [at?, at?, field?_mapStrings, hbind]
      | item i =>
          cases j with
          | arr items =>
              rw [mapStrings, mapStringsInItems_eq, at?, at?, List.getElem?_map, hbind]
          | _ => rfl

/-- Below the root of an object only its entries count. -/
theorem at?_congr {j j' : Json} (h : ∀ key, j.field? key = j'.field? key)
    (hj : ∃ entries, j = .obj entries) (hj' : ∃ entries, j' = .obj entries) {step : Step}
    {path : List Step} : j.at? (step :: path) = j'.at? (step :: path) := by
  obtain ⟨entries, rfl⟩ := hj
  obtain ⟨entries', rfl⟩ := hj'
  cases step with
  | entry key => rw [at?, at?, h]
  | item i => rfl

end Json

namespace DynamicObject

theorem lookup_filter (p : String → Bool) (key : String) (es : List (String × Json)) :
    (es.filter (p ·.1)).lookup key = if p key then es.lookup key else none := by
  induction es with
  | nil => exact (ite_self none).symm
  | cons e es ih =>
      obtain ⟨k, j⟩ := e
      by_cases hk : key = k
      · subst hk
        by_cases hp : p key <;> simp [hp, ih]
      · by_cases hp : p k <;> simp [hp, ih, List.lookup_cons, beq_eq_false_iff_ne.2 hk]

theorem lookup_filter_append_filter (p : String → Bool) (key : String)
    (es : List (String × Json)) :
    (es.filter (p ·.1) ++ es.filter fun e => !p e.1).lookup key = es.lookup key := by
  have hothers := lookup_filter (fun k => !p k) key es
  rw [List.lookup_append, lookup_filter, hothers]
  by_cases hp : p key <;> simp [hp]

/-- Reading an object back leaves every value under its key. -/
theorem field?_toJson {f : String → String} {r : Resource} {o : DynamicObject}
    (h : ofJson? (r.toJson.mapStrings f) = some o) (key : String) :
    o.toJson.field? key = (r.toJson.mapStrings f).field? key := by
  obtain ⟨entries, m, hmapped, -, hfilter⟩ := filter_owns_mapStrings f r
  rw [hmapped] at h ⊢
  rw [toJson_of_filter hfilter h]
  exact lookup_filter_append_filter owns key entries

/-- So the strings of an object are where they were. -/
theorem at?_toJson_eq_str {f : String → String} {r : Resource} {o : DynamicObject}
    (h : ofJson? (r.toJson.mapStrings f) = some o) {path : List Json.Step} {s : String}
    (hs : r.toJson.at? path = some (.str s)) : o.toJson.at? path = some (.str (f s)) := by
  obtain ⟨entries, hentries, -⟩ := filter_owns_encode r.kind r.object
  have hmapped : (r.toJson.mapStrings f).at? path = some (.str (f s)) := by
    rw [Json.at?_mapStrings, hs]
    rfl
  rw [← hmapped]
  cases path with
  | nil =>
      have hroot : Json.obj entries = .str s := hentries.symm.trans (Option.some.inj hs)
      cases hroot
  | cons step path => exact Json.at?_congr (field?_toJson h) ⟨_, rfl⟩ ⟨_, congrArg _ hentries⟩

end DynamicObject

/-! ## The text of a placeholder -/

namespace Placeholder

variable {value? : String → Option String} {cs out : List Char} {name value : String}

theorem toList_text (name : String) : (text name).toList = reference name.toList [] := by
  simp [text, reference]

theorem text_ne_empty (name : String) : text name ≠ "" := by
  intro h
  have hchars := congrArg String.toList h
  rw [toList_text] at hchars
  cases hchars

theorem replace_text (hname : IsName name.toList) (hvalue : value? name = some value) :
    replace value? (text name) = value := by
  have hlist : value? (String.ofList name.toList) = some value := by
    rw [String.ofList_toList, hvalue]
  rw [replace, toList_text, replaceChars_replaced hname hlist, replaceChars, List.append_nil,
    String.ofList_toList]

theorem Substituted.eq_self (h : Substituted value? cs out)
    (hnone : ∀ name, IsName name → value? (String.ofList name) = none) : out = cs := by
  induction h with
  | done => rfl
  | replaced hname hvalue _ _ => cases (hnone _ hname).symm.trans hvalue
  | kept _ _ _ ih => rw [ih]
  | plain _ _ ih => rw [ih]

/-- Values of what cannot be read as a name are never put in. -/
theorem replace_eq_self (hnone : ∀ name, IsName name → value? (String.ofList name) = none)
    (s : String) : replace value? s = s :=
  String.toList_injective ((substituted_iff.2 rfl).eq_self hnone)

end Placeholder

namespace Bundle

variable {b b' : Bundle} {p : Parameter} {r : Processed}
variable {supplied : SortedMap String String} {d : Draws}

/-- Processing puts the value of a parameter wherever a string of an object is the placeholder of
that parameter. -/
def Reaches (b : Bundle) (p : Parameter) : Prop :=
  ∀ supplied d r, b.process supplied d = .ok r → ∃ value, r.values.get? p.name = some value ∧
    List.Forall₂ (fun (object : Resource) (item : DynamicObject) => ∀ path,
      object.toJson.at? path = some (.str p.placeholder) →
        item.toJson.at? path = some (.str value)) b.objects.values r.items

/-- What stands where a placeholder stood after processing. -/
theorem forall₂_placed (h : b.process supplied d = .ok r) :
    List.Forall₂ (fun (object : Resource) (item : DynamicObject) => ∀ path s,
      object.toJson.at? path = some (.str s) →
        item.toJson.at? path = some (.str (Placeholder.replace r.values.get? s)))
      b.objects.values r.items := by
  rw [OrderedMap.values, List.forall₂_map_left_iff]
  refine (forall₂_of_process h).imp fun e o hfill path s hs => ?_
  exact DynamicObject.at?_toJson_eq_str (ofJson?_of_fillObject hfill) hs

theorem reaches_of_isName (hname : Placeholder.IsName p.name.toList)
    (hp : p.name ∈ b.parameters.values.map (·.name)) : b.Reaches p := by
  intro supplied d r hprocess
  have hnames := (processes_of_process hprocess).names p.name
  obtain ⟨value, hvalue⟩ := Option.isSome_iff_exists.1 (hnames.2 hp)
  refine ⟨value, hvalue, (forall₂_placed hprocess).imp fun object item hplaced path hs => ?_⟩
  rw [hplaced path _ hs, Parameter.placeholder, Placeholder.replace_text hname hvalue]

theorem mem_names_of_pushParameter (h : b.pushParameter p = .ok b') :
    p.name ∈ b'.parameters.values.map (·.name) := by
  unfold pushParameter at h
  split at h
  · cases h
  · cases h
    have hmem := OrderedMap.mem_insertIn_self p.name p b.parameters.entries
    exact List.mem_map.2 ⟨p, OrderedMap.mem_values.2 ⟨_, hmem⟩, rfl⟩

/-- A bundle without parameters, of which a text is the placeholder of a name. -/
def quoting (name : String) : Bundle :=
  { objects := ⟨[(.template .configMap "page", .configMap
      { metadata := { name := some "page" }
        data := some (.ofList [("text", Placeholder.text name)]) })]⟩ }

theorem exists_not_reaches (hname : ¬ Placeholder.IsName p.name.toList) :
    ∃ b', (quoting p.name).pushParameter p = .ok b' ∧ ¬ b'.Reaches p := by
  let b' : Bundle := { quoting p.name with parameters := ⟨[(p.name, p)]⟩ }
  refine ⟨b', rfl, fun hreaches => ?_⟩
  have hsupply : b'.SuppliedBy (.ofList [(p.name, "")]) := by
    intro q hq
    obtain rfl := List.mem_singleton.1 hq
    simp [SortedMap.contains, SortedMap.ofList, SortedMap.insertMany]
  obtain ⟨r, hprocess, hvalues⟩ := exists_process_of_supplied hsupply id
  -- No text is read as a reference to the only name that has a value.
  have hnone : ∀ name, Placeholder.IsName name → r.values.get? (String.ofList name) = none := by
    intro name hname'
    refine (hvalues _).trans (if_neg fun hmem => ?_)
    have heq : String.ofList name = p.name := List.mem_singleton.1 hmem
    rw [← heq, String.toList_ofList] at hname
    exact hname hname'
  obtain ⟨value, hvalue, hitems⟩ := hreaches _ _ _ hprocess
  have hempty : value = "" := by
    have hsupplied : r.values.get? p.name = some "" := by
      rw [hvalues]
      simp [b', OrderedMap.values, SortedMap.ofList, SortedMap.insertMany]
    exact Option.some.inj (hvalue.symm.trans hsupplied)
  obtain ⟨item, items, hreached, -, hlist⟩ := List.forall₂_cons_left_iff.1 hitems
  have hplaced := forall₂_placed hprocess
  rw [hlist] at hplaced
  obtain ⟨hkept, -⟩ := List.forall₂_cons.1 hplaced
  have hkept := hkept [.entry "data", .entry "text"] p.placeholder rfl
  rw [Placeholder.replace_eq_self hnone, hreached _ rfl] at hkept
  have hsame : value = p.placeholder := Json.str.inj (Option.some.inj hkept)
  exact Placeholder.text_ne_empty p.name (hsame.symm.trans hempty)

/-- Exactly the parameters that are named by upper case letters, digits and underscores can be
referred to from every bundle that declares them, or that has just accepted them. -/
theorem reaches_tfae (p : Parameter) :
    [Placeholder.IsName p.name.toList,
      ∀ b : Bundle, p.name ∈ b.parameters.values.map (·.name) → b.Reaches p,
      ∀ b b' : Bundle, b.pushParameter p = .ok b' → b'.Reaches p].TFAE := by
  tfae_have 1 → 2 := fun hname b hp => reaches_of_isName hname hp
  tfae_have 2 → 3 := fun h b b' hpush => h b' (mem_names_of_pushParameter hpush)
  tfae_have 3 → 1 := by
    intro h
    by_contra hname
    obtain ⟨b', hpush, hnot⟩ := exists_not_reaches hname
    exact hnot (h _ b' hpush)
  tfae_finish

/-- A parameter of a lower case name. -/
def domain : Parameter := { name := "domain", value := some "example.com" }

theorem domain_not_reached :
    ∃ b', (quoting "domain").pushParameter domain = .ok b' ∧ ¬ b'.Reaches domain :=
  exists_not_reaches (p := domain) fun h => absurd (h.chars 'd' (by decide)) (by decide)

end Bundle

end ApiPlatform
