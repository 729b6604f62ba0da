import ApiPlatform.Proofs.Json.Strings
import ApiPlatform.Resource.Dynamic
import ApiPlatform.Resource.Object
/-!
# Reading objects back

An object of any kind states its version, its kind and its metadata once.  With other texts in it
these can be read again, and no entry is lost.
-/

namespace ApiPlatform

theorem OwnerReference.textual_codec : OwnerReference.codec.Textual := by
  unfold codec
  refine Fields.Textual.codec (Fields.Textual.iso ?_ _ fun _ => rfl)
  exact .and (Fields.textual_defaulted _ Codec.textual_string _) (.and
    (Fields.textual_optional _ Codec.textual_bool) (.and
    (Fields.textual_optional _ Codec.textual_bool) (.and
    (Fields.textual_defaulted _ Codec.textual_string _) (.and
    (Fields.textual_defaulted _ Codec.textual_string _)
    (Fields.textual_defaulted _ Codec.textual_string _) _) _) _) _) _

theorem ObjectMeta.textual_codec : ObjectMeta.codec.Textual := by
  have hlabels : Labels.codec.Textual := Codec.textual_string.map
  have howners : (Codec.list OwnerReference.codec).Textual := OwnerReference.textual_codec.list
  unfold codec
  refine Fields.Textual.codec (Fields.Textual.iso ?_ _ fun _ => rfl)
  exact .and (Fields.textual_optional _ hlabels) (.and
    (Fields.textual_optional _ Codec.textual_string) (.and
    (Fields.textual_optional _ hlabels) (.and
    (Fields.textual_optional _ Codec.textual_string) (.and
    (Fields.textual_optional _ Codec.textual_string) (.and
    (Fields.textual_optional _ howners) (.and
    (Fields.textual_optional _ Codec.textual_string)
    (Fields.textual_optional _ Codec.textual_string) _) _) _) _) _) _) _

namespace Fields

variable {α β : Type} {p : String → Bool} {f : Fields α} {g : Fields β}

/-- Other entries than those of owned keys do not matter to reading. -/
theorem decode_filter (h : ∀ k ∈ f.keys, p k) (es : List (String × Json)) :
    f.decode (es.filter (p ·.1)) = f.decode es := by
  refine f.decode_congr _ _ fun k hk => ?_
  induction es with
  | nil => rfl
  | cons e es ih =>
      obtain ⟨k', j⟩ := e
      by_cases hk' : p k'
      · rw [List.filter_cons, if_pos hk', List.lookup_cons, List.lookup_cons, ih]
      · have hne : k ≠ k' := fun heq => hk' (heq ▸ h k hk)
        rw [List.filter_cons, if_neg hk', List.lookup_cons, beq_eq_false_iff_ne.2 hne, ih]

theorem filter_singleton (key : String) (j : Json) :
    [(key, j)].filter (p ·.1) = if p key then [(key, j)] else [] :=
  List.filter_cons

theorem filter_encode_constant (key text : String) (u : Unit) :
    ((constant key text).encode u).filter (p ·.1) =
      if p key then [(key, .str text)] else [] :=
  filter_singleton key _

theorem filter_encode_label (key text : String) (u : Unit) :
    ((label key text).encode u).filter (p ·.1) = if p key then [(key, .str text)] else [] :=
  filter_singleton key _

theorem filter_encode_required (key : String) (c : Codec α) (a : α) :
    ((required key c).encode a).filter (p ·.1) = if p key then [(key, c.encode a)] else [] :=
  filter_singleton key _

theorem filter_encode_defaulted (key : String) (c : Codec α) (fallback a : α) :
    ((defaulted key c fallback).encode a).filter (p ·.1) =
      if p key then [(key, c.encode a)] else [] :=
  filter_singleton key _

theorem filter_encode_optional (key : String) (c : Codec α) (a : Option α) :
    ((optional key c).encode a).filter (p ·.1) =
      if p key then (optional key c).encode a else [] := by
  cases a with
  | none => exact (ite_self []).symm
  | some a => exact filter_singleton key _

theorem filter_encode_and (disjoint : ∀ k ∈ f.keys, k ∉ g.keys) (a : α × β) :
    ((f.and g disjoint).encode a).filter (p ·.1) =
      (f.encode a.1).filter (p ·.1) ++ (g.encode a.2).filter (p ·.1) :=
  List.filter_append _ _

end Fields

namespace DynamicObject

/-- Whether an entry is read as such and not kept with the others. -/
def owns (key : String) : Bool := ownKeys.contains key

/-- The entries by which an object of a kind is read. -/
def ownEntries (k : Kind) (o : k.Object) : List (String × Json) :=
  [("apiVersion", .str k.apiVersion), ("kind", .str k.name),
    ("metadata", ObjectMeta.codec.encode (k.metadata o))]

theorem owns_eq (key : String) :
    owns key = (key = "apiVersion" ∨ key = "kind" ∨ key = "metadata" : Bool) := by
  have hkeys : ownKeys = ["apiVersion", "kind", "metadata"] := rfl
  simp [owns, hkeys]

theorem filter_owns_encode (k : Kind) (o : k.Object) :
    ∃ entries, k.codec.encode o = .obj entries ∧ entries.filter (owns ·.1) = ownEntries k o := by
  cases k <;> refine ⟨_, rfl, ?_⟩ <;>
    simp only [Fields.iso, Fields.filter_encode_and, Fields.filter_encode_optional,
      Fields.filter_encode_constant, Fields.filter_encode_label, Fields.filter_encode_required,
      Fields.filter_encode_defaulted] <;>
    simp [owns_eq] <;> rfl

variable {types : TypeMeta} {m : ObjectMeta} {entries : List (String × Json)}

theorem ofJson?_of_filter
    (h : entries.filter (owns ·.1) = TypeMeta.fields.encode types ++ metadataField.encode m) :
    ofJson? (.obj entries) =
      some ⟨some types, m, entries.filter fun e => !owns e.1⟩ := by
  let own : Fields (TypeMeta × ObjectMeta) := TypeMeta.fields.and metadataField
  have hown : own.decode entries = some (types, m) := by
    have hall : ∀ k ∈ own.keys, owns k := fun k hk => List.contains_iff_mem.2 hk
    rw [← own.decode_filter hall, h]
    exact own.decode_encode (types, m)
  obtain ⟨types', htypes, hrest⟩ := Option.bind_eq_some_iff.1 hown
  obtain ⟨m', hm, heq⟩ := Option.bind_eq_some_iff.1 hrest
  cases heq
  rw [ofJson?, htypes, hm]
  rfl

/-- What was read is written with the entries first by which it was read. -/
theorem toJson_of_filter {o : DynamicObject}
    (h : entries.filter (owns ·.1) = TypeMeta.fields.encode types ++ metadataField.encode m)
    (hread : ofJson? (.obj entries) = some o) :
    o.toJson = .obj (entries.filter (owns ·.1) ++ entries.filter fun e => !owns e.1) := by
  rw [ofJson?_of_filter h] at hread
  rw [← Option.some.inj hread, h, List.append_assoc]
  rfl

/-- An object that states its version, kind and metadata once can be read, and what is read has
the same entries. -/
theorem exists_ofJson?_of_filter
    (h : entries.filter (owns ·.1) = TypeMeta.fields.encode types ++ metadataField.encode m) :
    ∃ o, ofJson? (.obj entries) = some o ∧ o.toJson.SameEntries (.obj entries) := by
  have hread := ofJson?_of_filter h
  exact ⟨_, hread, _, entries, toJson_of_filter h hread, rfl,
    List.filter_append_perm (owns ·.1) entries⟩

/-- With other texts in it an object states its version, its kind and its metadata once. -/
theorem filter_owns_mapStrings (f : String → String) (r : Resource) :
    ∃ entries m, r.toJson.mapStrings f = .obj entries ∧
      (ObjectMeta.codec.encode r.metadata).mapStrings f = ObjectMeta.codec.encode m ∧
      entries.filter (owns ·.1) =
        TypeMeta.fields.encode ⟨f r.kind.apiVersion, f r.kind.name⟩ ++ metadataField.encode m := by
  obtain ⟨entries, hentries, hown⟩ := filter_owns_encode r.kind r.object
  obtain ⟨m, hm⟩ := ObjectMeta.textual_codec f r.metadata
  have hmapped : r.toJson.mapStrings f = .obj (entries.map fun e => (e.1, e.2.mapStrings f)) := by
    rw [Resource.toJson, hentries, Json.mapStrings, Json.mapStringsInEntries_eq]
  refine ⟨_, m, hmapped, hm, ?_⟩
  -- Keys stay as they are, so the entries that are read are those that were written, mapped.
  have hcomm : (entries.map fun e => (e.1, e.2.mapStrings f)).filter (owns ·.1) =
      (entries.filter (owns ·.1)).map fun e => (e.1, e.2.mapStrings f) := by
    rw [List.filter_map]
    rfl
  rw [hcomm, hown]
  exact congrArg (fun j => [("apiVersion", .str (f r.kind.apiVersion)),
    ("kind", .str (f r.kind.name)), ("metadata", j)]) hm

/-- An object with other texts in it can be read back. -/
theorem exists_ofJson?_mapStrings (f : String → String) (r : Resource) :
    ∃ o, ofJson? (r.toJson.mapStrings f) = some o ∧
      o.toJson.SameEntries (r.toJson.mapStrings f) := by
  obtain ⟨entries, m, hmapped, -, hfilter⟩ := filter_owns_mapStrings f r
  rw [hmapped]
  exact exists_ofJson?_of_filter hfilter

/-- Reading an object back does nothing but arrange its entries, and the texts that were put in have
no influence on that. -/
theorem exists_arranged (r : Resource) :
    ∃ j : Json, j.SameEntries r.toJson ∧ ∀ (f : String → String) (o : DynamicObject),
      ofJson? (r.toJson.mapStrings f) = some o → o.toJson = j.mapStrings f := by
  obtain ⟨entries, hentries, -⟩ := filter_owns_encode r.kind r.object
  have hwritten : r.toJson = .obj entries := hentries
  refine ⟨.obj (entries.filter (owns ·.1) ++ entries.filter fun e => !owns e.1),
    ⟨_, entries, rfl, hwritten, List.filter_append_perm _ entries⟩, fun f o hread => ?_⟩
  obtain ⟨mapped, m, hmapped, -, hfilter⟩ := filter_owns_mapStrings f r
  rw [hmapped] at hread
  rw [hwritten, Json.mapStrings, Json.mapStringsInEntries_eq] at hmapped
  rw [toJson_of_filter hfilter hread, ← Json.obj.inj hmapped, List.filter_map, List.filter_map,
    ← List.map_append, Json.mapStrings, Json.mapStringsInEntries_eq]
  rfl

end DynamicObject

end ApiPlatform
