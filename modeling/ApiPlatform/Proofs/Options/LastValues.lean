import ApiPlatform.Options.Schema
import Mathlib.Data.List.Forall2
import Mathlib.Tactic.Common
/-!
# Last values

A record is built from the value that each of its fields was given last.  What was given before, in
which order different fields were given their values, and what was built in between has no
influence.  The first required field, in the order of the schema, that is without a value is
reported.
-/

namespace ApiPlatform

theorem OptionValue.isPresent_iff (v : OptionValue) : v.isPresent ↔ v ≠ .text "" := by
  cases v <;> simp [isPresent]

namespace OptionCalls

variable {calls : OptionCalls} {a b : String × OptionValue} {field : String} {v : OptionValue}

/-- The field was given the value, and no other one after it. -/
def Gives (calls : OptionCalls) (field : String) (v : OptionValue) : Prop :=
  ∃ before after, calls = before ++ (field, v) :: after ∧ ∀ call ∈ after, call.1 ≠ field

/-- The field was never given a value. -/
def Leaves (calls : OptionCalls) (field : String) : Prop := ∀ call ∈ calls, call.1 ≠ field

theorem bne_iff (call : String × OptionValue) : (field != call.1) = true ↔ call.1 ≠ field :=
  bne_iff_ne.trans ne_comm

theorem last?_eq_none_iff : calls.last? field = none ↔ calls.Leaves field := by
  simp only [last?, List.lookup_eq_none_iff, List.mem_reverse, bne_iff, Leaves]

theorem last?_eq_some_iff : calls.last? field = some v ↔ calls.Gives field v := by
  simp only [last?, List.lookup_eq_some_iff, bne_iff, Gives]
  constructor
  · rintro ⟨after, before, hsplit, hafter⟩
    refine ⟨before.reverse, after.reverse, ?_, ?_⟩
    · simpa using congrArg List.reverse hsplit
    · simpa using hafter
  · rintro ⟨before, after, rfl, hafter⟩
    exact ⟨after.reverse, before.reverse, by simp, by simpa using hafter⟩

theorem last?_append (before after : OptionCalls) (field : String) :
    last? (before ++ after) field = (after.last? field).or (before.last? field) := by
  simp [last?, List.lookup_append]

/-- Different fields can be given their values in either order. -/
theorem last?_swap (hne : a.1 ≠ b.1) (before after : OptionCalls) (field : String) :
    last? (before ++ b :: a :: after) field = last? (before ++ a :: b :: after) field := by
  obtain ⟨name, v⟩ := a
  obtain ⟨name', v'⟩ := b
  have hpair : last? [(name', v'), (name, v)] field = last? [(name, v), (name', v')] field := by
    by_cases hname : field = name
    · subst hname
      simp [last?, List.lookup_cons, beq_false_of_ne hne]
    · simp [last?, List.lookup_cons, beq_false_of_ne hname]
  calc last? (before ++ (name', v') :: (name, v) :: after) field
      = last? (before ++ [(name', v'), (name, v)] ++ after) field := by simp
    _ = last? (before ++ [(name, v), (name', v')] ++ after) field := by
        simp only [last?_append, hpair]
    _ = last? (before ++ (name, v) :: (name', v') :: after) field := by simp

end OptionCalls

namespace OptionField

variable {f : OptionField} {calls : OptionCalls} {title : String} {held : Option OptionValue}

/-- The field needs a value, and was given none, or the empty text in the end. -/
def Missing (f : OptionField) (calls : OptionCalls) : Prop :=
  f.presence = .required ∧ (calls.Leaves f.name ∨ calls.Gives f.name (.text ""))

/-- What the field holds in the record: the value that it was given last, unless that is the empty
text and the field needs a value.  If it was given none, its default, or nothing if it has none and
needs no value. -/
inductive Holds (f : OptionField) (calls : OptionCalls) : Option OptionValue → Prop
  | given {v : OptionValue} : calls.Gives f.name v → (f.presence = .required → v ≠ .text "") →
      Holds f calls (some v)
  | fallback {v : OptionValue} : calls.Leaves f.name → f.presence = .optional v →
      Holds f calls (some v)
  | unset : calls.Leaves f.name → f.presence = .omittable → Holds f calls none

theorem resolve_of_missing (h : f.Missing calls) (title : String) :
    f.resolve title calls = .error (.missingRequiredField title f.name) := by
  obtain ⟨hrequired, hleft⟩ := h
  have hnone : (calls.last? f.name).filter (·.isPresent) = none := by
    obtain hleaves | hgives := hleft
    · rw [OptionCalls.last?_eq_none_iff.2 hleaves]
      rfl
    · rw [OptionCalls.last?_eq_some_iff.2 hgives]
      rfl
  simp only [resolve, hrequired, hnone]

theorem resolve_of_holds (h : f.Holds calls held) (title : String) :
    f.resolve title calls = .ok held := by
  cases h with
  | @given v hgives hpresent =>
      have hlast := OptionCalls.last?_eq_some_iff.2 hgives
      unfold resolve
      cases hpresence : f.presence with
      | required =>
          have hv : v.isPresent := v.isPresent_iff.2 (hpresent hpresence)
          simp [hlast, hv, Option.filter]
      | optional fallback => simp [hlast]
      | omittable => simp [hlast]
  | fallback hleaves hpresence =>
      simp [resolve, hpresence, OptionCalls.last?_eq_none_iff.2 hleaves]
  | unset hleaves hpresence =>
      simp [resolve, hpresence, OptionCalls.last?_eq_none_iff.2 hleaves]

/-- A field is missing or holds something. -/
theorem missing_or_holds (f : OptionField) (calls : OptionCalls) :
    f.Missing calls ∨ ∃ held, f.Holds calls held := by
  cases hlast : calls.last? f.name with
  | some v =>
      have hgives := OptionCalls.last?_eq_some_iff.1 hlast
      by_cases hempty : f.presence = .required ∧ v = .text ""
      · obtain ⟨hrequired, rfl⟩ := hempty
        exact .inl ⟨hrequired, .inr hgives⟩
      · exact .inr ⟨_, .given hgives fun hrequired hv => hempty ⟨hrequired, hv⟩⟩
  | none =>
      have hleaves := OptionCalls.last?_eq_none_iff.1 hlast
      cases hpresence : f.presence with
      | required => exact .inl ⟨hpresence, .inl hleaves⟩
      | optional fallback => exact .inr ⟨_, .fallback hleaves hpresence⟩
      | omittable => exact .inr ⟨_, .unset hleaves hpresence⟩

theorem resolve_eq_ok_iff : f.resolve title calls = .ok held ↔ f.Holds calls held := by
  refine ⟨fun h => ?_, fun h => resolve_of_holds h title⟩
  obtain hmissing | ⟨held', hholds⟩ := f.missing_or_holds calls
  · cases h.symm.trans (resolve_of_missing hmissing title)
  · obtain rfl := Except.ok.inj (h.symm.trans (resolve_of_holds hholds title))
    exact hholds

theorem not_missing_iff : ¬ f.Missing calls ↔ ∃ held, f.Holds calls held := by
  refine ⟨(f.missing_or_holds calls).resolve_left, ?_⟩
  rintro ⟨held, hholds⟩ hmissing
  cases (resolve_of_missing hmissing "").symm.trans (resolve_of_holds hholds "")

end OptionField

/-- What is done with the draft of a record: a field is given a value, or the record is built. -/
inductive DraftStep where
  | give (field : String) (value : OptionValue)
  | build

/-- The values that are given, first to last. -/
def DraftStep.given : List DraftStep → OptionCalls
  | [] => []
  | .give field value :: steps => (field, value) :: given steps
  | .build :: steps => given steps

namespace OptionSchema

variable {s : OptionSchema} {calls calls' : OptionCalls} {title : String}
  {f : OptionField} {fields : List OptionField} {e : OptionsError} {record : OptionRecord}

/-! ## The fields in order -/

theorem resolveFields_cons_of_missing (h : f.Missing calls) :
    resolveFields title calls (f :: fields) = .error (.missingRequiredField title f.name) := by
  unfold resolveFields
  rw [OptionField.resolve_of_missing h]
  rfl

theorem resolveFields_cons_of_holds {held : Option OptionValue} (h : f.Holds calls held) :
    resolveFields title calls (f :: fields) =
      (resolveFields title calls fields).map ((f.name, held) :: ·) := by
  rw [resolveFields, OptionField.resolve_of_holds h]
  cases resolveFields title calls fields <;> rfl

/-- A list of fields fails for its first missing one. -/
theorem resolveFields_eq_error_iff :
    resolveFields title calls fields = .error e ↔
      ∃ before f after, fields = before ++ f :: after ∧ (∀ f' ∈ before, ¬ f'.Missing calls) ∧
        f.Missing calls ∧ e = .missingRequiredField title f.name := by
  induction fields with
  | nil => simp [resolveFields]
  | cons f fields ih =>
      obtain hmissing | ⟨held, hholds⟩ := f.missing_or_holds calls
      · rw [resolveFields_cons_of_missing hmissing]
        constructor
        · intro h
          exact ⟨[], f, fields, rfl, by simp, hmissing, (Except.error.inj h).symm⟩
        · rintro ⟨_ | ⟨f', before⟩, g, after, hsplit, hbefore, -, rfl⟩
          · obtain ⟨rfl, -⟩ := List.cons_eq_cons.1 hsplit
            rfl
          · obtain ⟨rfl, -⟩ := List.cons_eq_cons.1 hsplit
            exact absurd hmissing (hbefore f List.mem_cons_self)
      · have hpresent : ¬ f.Missing calls := OptionField.not_missing_iff.2 ⟨held, hholds⟩
        have hrest : (resolveFields title calls fields).map ((f.name, held) :: ·) = .error e ↔
            resolveFields title calls fields = .error e := by
          cases resolveFields title calls fields <;> simp [Except.map]
        rw [resolveFields_cons_of_holds hholds, hrest, ih]
        constructor
        · rintro ⟨before, g, after, rfl, hbefore, hmissing, rfl⟩
          exact ⟨f :: before, g, after, rfl, List.forall_mem_cons.2 ⟨hpresent, hbefore⟩, hmissing,
            rfl⟩
        · rintro ⟨_ | ⟨f', before⟩, g, after, hsplit, hbefore, hmissing, rfl⟩
          · obtain ⟨rfl, -⟩ := List.cons_eq_cons.1 hsplit
            exact absurd hmissing hpresent
          · obtain ⟨rfl, rfl⟩ := List.cons_eq_cons.1 hsplit
            exact ⟨before, g, after, rfl, (List.forall_mem_cons.1 hbefore).2, hmissing, rfl⟩

/-- A list of fields succeeds if every field holds something, and with what they hold. -/
theorem resolveFields_eq_ok_iff :
    resolveFields title calls fields = .ok record ↔
      List.Forall₂ (fun f entry => entry.1 = f.name ∧ f.Holds calls entry.2) fields record := by
  induction fields generalizing record with
  | nil => simp [resolveFields, eq_comm]
  | cons f fields ih =>
      rw [resolveFields, List.forall₂_cons_left_iff]
      simp only [Failure.bind_eq_ok, OptionField.resolve_eq_ok_iff, ih, Except.ok.injEq]
      constructor
      · rintro ⟨held, hholds, entries, hentries, rfl⟩
        exact ⟨(f.name, held), entries, ⟨rfl, hholds⟩, hentries, rfl⟩
      · rintro ⟨⟨name, held⟩, entries, ⟨rfl, hholds⟩, hentries, rfl⟩
        exact ⟨held, hholds, entries, hentries, rfl⟩

/-- Only last values count. -/
theorem resolveFields_congr
    (h : ∀ f ∈ fields, calls'.last? f.name = calls.last? f.name) :
    resolveFields title calls' fields = resolveFields title calls fields := by
  induction fields with
  | nil => rfl
  | cons f fields ih =>
      obtain ⟨hfirst, hrest⟩ := List.forall_mem_cons.1 h
      simp only [resolveFields, OptionField.resolve, hfirst, ih hrest]

theorem build_congr (h : ∀ f ∈ s.fields, calls'.last? f.name = calls.last? f.name) :
    s.build calls' = s.build calls :=
  resolveFields_congr h

/-! ## Building more than once -/

/-- What is built along some steps, from the values given before on. -/
def built (s : OptionSchema) (calls : OptionCalls) :
    List DraftStep → List (Except OptionsError OptionRecord)
  | [] => []
  | .give field value :: steps => s.built (calls ++ [(field, value)]) steps
  | .build :: steps => s.build calls :: s.built calls steps

theorem built_append (s : OptionSchema) (calls : OptionCalls) (steps later : List DraftStep) :
    s.built calls (steps ++ later) =
      s.built calls steps ++ s.built (calls ++ DraftStep.given steps) later := by
  induction steps generalizing calls with
  | nil => simp [built, DraftStep.given]
  | cons step steps ih =>
      cases step with
      | give field value => simp [built, DraftStep.given, ih]
      | build => simp [built, DraftStep.given, ih]

/-- A record cannot be built exactly if some required field was never given a value or was given the
empty text last, and then the first such field is reported.  Else each field of the record holds its
last value, and if it was given none its default or nothing.  Hence drafts in which every field has
the same last value build the same, values of different fields can be given in either order, and
building, before or again, changes nothing. -/
theorem build_by_last_values (s : OptionSchema) (calls : OptionCalls) :
    (∀ e, s.build calls = .error e ↔
        ∃ before f after, s.fields = before ++ f :: after ∧ (∀ f' ∈ before, ¬ f'.Missing calls) ∧
          f.Missing calls ∧ e = .missingRequiredField s.title f.name) ∧
      (∀ record, s.build calls = .ok record ↔
        List.Forall₂ (fun f entry => entry.1 = f.name ∧ f.Holds calls entry.2) s.fields record) ∧
      (∀ calls' : OptionCalls,
        (∀ f ∈ s.fields, ∀ v, calls'.Gives f.name v ↔ calls.Gives f.name v) →
          s.build calls' = s.build calls) ∧
      (∀ before a b after, calls = before ++ a :: b :: after → a.1 ≠ b.1 →
        s.build (before ++ b :: a :: after) = s.build calls) ∧
      ∀ steps, DraftStep.given steps = calls →
        s.built [] (steps ++ [.build, .build]) =
          s.built [] steps ++ [s.build calls, s.build calls] := by
  refine ⟨fun e => resolveFields_eq_error_iff, fun record => resolveFields_eq_ok_iff, ?_, ?_, ?_⟩
  · intro calls' hsame
    refine build_congr fun f hf => Option.ext fun v => ?_
    rw [OptionCalls.last?_eq_some_iff, OptionCalls.last?_eq_some_iff]
    exact hsame f hf v
  · rintro before a b after rfl hne
    exact build_congr fun f _ => OptionCalls.last?_swap hne before after f.name
  · rintro steps rfl
    simp [built_append, built]

/-- An optional field that is given the empty text holds it. -/
example :
    build { title := "Tenant", fields := [.requires "name", .defaults "policy" (.text "None")] }
        [("policy", .text ""), ("name", .text "x"), ("name", .text "acme")] =
      .ok [("name", some (.text "acme")), ("policy", some (.text ""))] := by
  rfl

end OptionSchema

end ApiPlatform
