import Mathlib.Data.List.Induction
import ApiPlatform.Proofs.Template.Compatible
/-!
# Where an assembly fails

An assembly either collects everything or stops at the first contribution that does not go with
those before it.  Within that contribution the parameters come first, then the options, then the
objects, and of what repeats the first in order is named.
-/

namespace ApiPlatform

/-! ## The first repetition -/

section Repetition

variable {α β : Type} {f : α → β} {before news : List α} {a : α}

/-- The first of the new ones that shares its key with one before it. -/
def FirstRepeat (f : α → β) (before news : List α) (a : α) : Prop :=
  ∃ kept rest, news = kept ++ a :: rest ∧
    ((before ++ kept).map f).Nodup ∧ f a ∈ (before ++ kept).map f

theorem nodup_or_firstRepeat (hbefore : (before.map f).Nodup) (news : List α) :
    ((before ++ news).map f).Nodup ∨ ∃ a, FirstRepeat f before news a := by
  induction news generalizing before with
  | nil =>
      rw [List.append_nil]
      exact .inl hbefore
  | cons a news ih =>
      by_cases ha : f a ∈ before.map f
      · exact .inr ⟨a, [], news, rfl, by rwa [List.append_nil], by rwa [List.append_nil]⟩
      · have hgrown : ((before ++ [a]).map f).Nodup := by
          rw [List.map_append]
          exact hbefore.append (List.nodup_singleton _) (by simpa using ha)
        rw [List.append_cons]
        refine (ih hgrown).imp_right fun ⟨a', kept, rest, hnews, hkept, hmem⟩ => ?_
        rw [← List.append_cons] at hkept hmem
        exact ⟨a', a :: kept, rest, by rw [hnews, List.cons_append], hkept, hmem⟩

end Repetition

/-! ## Faults -/

/-- What is wrong with a contribution that comes after the given parameters and objects. -/
inductive Contribution.Faults (ps : List Parameter) (rs : List Resource) (c : Contribution) :
    AssemblyError → Prop where
  | parameter {p : Parameter} (hp : FirstRepeat (·.name) ps c.parameters p) :
      Faults ps rs c (.append c.name (.duplicateParameter p.name))
  | options {e : OptionsError} (hnames : ((ps ++ c.parameters).map (·.name)).Nodup)
      (he : c.objects = .error e) : Faults ps rs c (.buildOptions c.name e)
  | object {news : List Resource} {r : Resource}
      (hnames : ((ps ++ c.parameters).map (·.name)).Nodup) (hnews : c.objects = .ok news)
      (hr : FirstRepeat (·.key) rs news r) :
      Faults ps rs c (.append c.name (.duplicateObject r.key))

/-- The first contribution that does not go with those before it, and what is wrong with it. -/
def FirstFault (cs : List Contribution) (e : AssemblyError) : Prop :=
  ∃ before c after, cs = before ++ c :: after ∧ Compatible before ∧
    c.Faults (before.flatMap (·.parameters)) (before.flatMap (·.made)) e

theorem FirstFault.append {cs : List Contribution} {e : AssemblyError} (h : FirstFault cs e)
    (more : List Contribution) : FirstFault (cs ++ more) e := by
  obtain ⟨before, c, after, rfl, hbefore, hc⟩ := h
  exact ⟨before, c, after ++ more, List.append_assoc _ _ _, hbefore, hc⟩

theorem Compatible.nil : Compatible [] := ⟨nofun, .nil, .nil⟩

/-- A contribution after compatible ones either goes with them or is at fault. -/
theorem Compatible.snoc_or_faults {cs : List Contribution} (hcs : Compatible cs)
    (c : Contribution) :
    Compatible (cs ++ [c]) ∨
      ∃ e, c.Faults (cs.flatMap (·.parameters)) (cs.flatMap (·.made)) e := by
  rcases nodup_or_firstRepeat hcs.names c.parameters with hnames | ⟨p, hp⟩
  · cases hobjects : c.objects with
    | error e => exact .inr ⟨_, .options hnames hobjects⟩
    | ok news =>
        have hmade : c.made = news := by rw [Contribution.made, hobjects]; rfl
        rcases nodup_or_firstRepeat hcs.keys news with hkeys | ⟨r, hr⟩
        · refine .inl ⟨?_, ?_, ?_⟩
          · intro d hd
            rcases List.mem_append.1 hd with hd | hd
            · exact hcs.built d hd
            · rw [List.mem_singleton.1 hd, hobjects, hmade]
          · rwa [List.flatMap_append, List.flatMap_singleton]
          · rwa [List.flatMap_append, List.flatMap_singleton, hmade]
        · exact .inr ⟨_, .object hnames hobjects hr⟩
  · exact .inr ⟨_, .parameter hp⟩

theorem compatible_or_firstFault (cs : List Contribution) :
    Compatible cs ∨ ∃ e, FirstFault cs e := by
  induction cs using List.reverseRecOn with
  | nil => exact .inl .nil
  | append_singleton cs c ih =>
      rcases ih with hcs | ⟨e, he⟩
      · refine (hcs.snoc_or_faults c).imp_right fun ⟨e, he⟩ => ?_
        exact ⟨e, cs, c, [], rfl, hcs, he⟩
      · exact .inr ⟨e, he.append [c]⟩

/-! ## What the assembly reports -/

namespace Bundle

variable {ps : List Parameter} {rs : List Resource} {c : Capabilities} {b : Bundle}

theorem pushParameters_append (xs ys : List Parameter) (b : Bundle) :
    pushParameters (xs ++ ys) b = pushParameters xs b >>= pushParameters ys := by
  induction xs generalizing b with
  | nil => rfl
  | cons p xs ih =>
      rw [List.cons_append, pushParameters, pushParameters]
      cases b.pushParameter p with
      | error e => rfl
      | ok b' => exact ih b'

theorem pushObjects_append (xs ys : List Resource) (b : Bundle) :
    pushObjects (xs ++ ys) b = pushObjects xs b >>= pushObjects ys := by
  induction xs generalizing b with
  | nil => rfl
  | cons r xs ih =>
      rw [List.cons_append, pushObjects, pushObjects]
      cases b.pushObject r with
      | error e => rfl
      | ok b' => exact ih b'

theorem contributeAll_append (xs ys : List Contribution) (b : Bundle) :
    contributeAll (xs ++ ys) b = contributeAll xs b >>= contributeAll ys := by
  induction xs generalizing b with
  | nil => rfl
  | cons d xs ih =>
      rw [List.cons_append, contributeAll, contributeAll]
      cases b.contribute d with
      | error e => rfl
      | ok b' => exact ih b'

theorem Collects.pushParameters_eq_error (hb : b.Collects ps rs c) {news : List Parameter}
    {p : Parameter} (hp : FirstRepeat (·.name) ps news p) :
    Bundle.pushParameters news b = .error (.duplicateParameter p.name) := by
  obtain ⟨kept, rest, rfl, hkept, hmem⟩ := hp
  obtain ⟨b', hpush, hb'⟩ := hb.pushParameters hkept
  rw [← hb'.keys_parameters] at hmem
  have hrepeat : b'.pushParameter p = .error (.duplicateParameter p.name) :=
    if_pos (OrderedMap.contains_of_mem_keys hmem)
  rw [pushParameters_append, hpush]
  change b'.pushParameter p >>= Bundle.pushParameters rest = _
  rw [hrepeat]
  rfl

theorem Collects.pushObjects_eq_error (hb : b.Collects ps rs c) {news : List Resource}
    {r : Resource} (hr : FirstRepeat (·.key) rs news r) :
    Bundle.pushObjects news b = .error (.duplicateObject r.key) := by
  obtain ⟨kept, rest, rfl, hkept, hmem⟩ := hr
  obtain ⟨b', hpush, hb'⟩ := hb.pushObjects hkept
  rw [← hb'.keys] at hmem
  have hrepeat : b'.pushObject r = .error (.duplicateObject r.key) :=
    if_pos (OrderedMap.contains_of_mem_keys hmem)
  rw [pushObjects_append, hpush]
  change b'.pushObject r >>= Bundle.pushObjects rest = _
  rw [hrepeat]
  rfl

theorem Collects.contribute_eq_error (hb : b.Collects ps rs c) {d : Contribution}
    {e : AssemblyError} (h : d.Faults ps rs e) : b.contribute d = .error e := by
  cases h with
  | parameter hp =>
      rw [Bundle.contribute, hb.pushParameters_eq_error hp]
      rfl
  | options hnames he =>
      obtain ⟨b', hpush, -⟩ := hb.pushParameters hnames
      rw [Bundle.contribute, hpush, he]
      rfl
  | @object news r hnames hnews hr =>
      obtain ⟨b', hpush, hb'⟩ := hb.pushParameters hnames
      rw [Bundle.contribute, hpush, hnews]
      change (Bundle.pushObjects news b').mapError _ >>= _ = _
      rw [hb'.pushObjects_eq_error hr]
      rfl

theorem assemble_eq_error {cs : List Contribution} {e : AssemblyError} (h : FirstFault cs e) :
    assemble cs = .error e := by
  obtain ⟨before, d, after, rfl, hbefore, hd⟩ := h
  obtain ⟨b, hassemble, hb⟩ := exists_assemble hbefore
  rw [assemble] at hassemble ⊢
  rw [contributeAll_append, hassemble]
  change b.contribute d >>= contributeAll after = _
  rw [hb.contribute_eq_error hd]
  rfl

/-- What contributions bring, in their order. -/
def collected (cs : List Contribution) : Bundle where
  parameters := ⟨(cs.flatMap (·.parameters)).map fun p => (p.name, p)⟩
  objects := ⟨(cs.flatMap (·.made)).map fun r => (r.key, r)⟩
  capabilities := Capabilities.mergeAll {} (cs.map (·.capabilities))

theorem keys_parameters_collected (cs : List Contribution) :
    (collected cs).parameters.keys = (cs.flatMap (·.parameters)).map (·.name) := by
  rw [OrderedMap.keys, collected, List.map_map]
  rfl

theorem values_objects_collected (cs : List Contribution) :
    (collected cs).objects.values = cs.flatMap (·.made) := by
  rw [OrderedMap.values, collected, List.map_map]
  exact List.map_id _

theorem assemble_eq_collected {cs : List Contribution} (hcs : Compatible cs) :
    assemble cs = .ok (collected cs) := by
  obtain ⟨⟨⟨parameters⟩, ⟨objects⟩, capabilities⟩, hassemble, hb⟩ := exists_assemble hcs
  cases hb.parameters
  cases hb.entries
  cases hb.capabilities
  exact hassemble

theorem assemble_eq_ok_iff {cs : List Contribution} {b : Bundle} :
    assemble cs = .ok b ↔ Compatible cs ∧ b = collected cs := by
  constructor
  · intro h
    rcases compatible_or_firstFault cs with hcs | ⟨e, he⟩
    · exact ⟨hcs, Except.ok.inj (h.symm.trans (assemble_eq_collected hcs))⟩
    · cases h.symm.trans (assemble_eq_error he)
  · rintro ⟨hcs, rfl⟩
    exact assemble_eq_collected hcs

theorem assemble_eq_error_iff {cs : List Contribution} {e : AssemblyError} :
    assemble cs = .error e ↔ FirstFault cs e := by
  refine ⟨fun h => ?_, assemble_eq_error⟩
  rcases compatible_or_firstFault cs with hcs | ⟨e', he'⟩
  · cases h.symm.trans (assemble_eq_collected hcs)
  · cases h.symm.trans (assemble_eq_error he')
    exact he'

/-- An assembly gives what compatible contributions bring, in order, and nothing else; it reports
the first fault, and nothing else. -/
theorem assemble_exact (cs : List Contribution) :
    (∀ b, assemble cs = .ok b ↔ Compatible cs ∧ b = collected cs) ∧
      ∀ e, assemble cs = .error e ↔ FirstFault cs e :=
  ⟨fun _ => assemble_eq_ok_iff, fun _ => assemble_eq_error_iff⟩

end Bundle

end ApiPlatform
