import ApiPlatform.Proofs.Template.Fillable
import ApiPlatform.Proofs.Transform.Steps
import ApiPlatform.Proofs.Transform.Strings
/-!
# Parameters that leave with their objects

Some parameters configure nothing but a hosted database or the claim of a shared storage, and leave
with it.  In an accounted bundle no other object refers to such a parameter, so that whatever is
left refers to what is left.  Every transform keeps a bundle accounted, and an accounted bundle can
be filled.
-/

namespace ApiPlatform

open Placeholder (Plain Fits)

namespace Capabilities

variable {c : Capabilities} {k : ObjectKey} {name : String}

/-- Whether a parameter stays, whatever leaves. -/
def Retains (c : Capabilities) (name : String) : Prop :=
  name ∉ c.externalDatabaseParameters.keys ∧ ∀ s ∈ c.sharedStorage, s.parameter ≠ some name

/-- Whether an object may refer to a parameter: it leaves, or is replaced, before the parameter
leaves. -/
def Grants (c : Capabilities) (k : ObjectKey) (name : String) : Prop :=
  (name ∈ c.externalDatabaseParameters.keys →
      k ∈ c.externalDatabaseObjects.keys ∨ k = Bundle.connectionKey) ∧
    ∀ s ∈ c.sharedStorage, s.parameter = some name → k = .template .persistentVolumeClaim s.claim

theorem Retains.grants (h : c.Retains name) (k : ObjectKey) : c.Grants k name :=
  ⟨fun hmem => absurd hmem h.1, fun s hs heq => absurd heq (h.2 s hs)⟩

/-- Declarations by which the transforms find what they change, and write plain names. -/
structure Tidy (c : Capabilities) : Prop where
  replaced : c.connectionSecrets.contains Catalog.databaseSecret
  fields : ∀ e ∈ c.externalEndpoints.entries, ∀ f ∈ e.2, Plain f.field
  environment : ∀ s ∈ c.sharedStorage, Plain s.environmentConfigMap ∧
    .template .configMap s.environmentConfigMap ∉ c.externalDatabaseObjects.keys

end Capabilities

namespace OrderedMap

variable {κ α : Type} [DecidableEq κ] {m : OrderedMap κ α} {k : κ} {v : α}

omit [DecidableEq κ] in
@[simp] theorem keys_mapEntries (f : κ → α → α) (m : OrderedMap κ α) :
    (m.mapEntries f).keys = m.keys := by
  simp [keys, mapEntries]

theorem nodup_keys_insert (h : m.keys.Nodup) : (m.insert k v).keys.Nodup := by
  obtain ⟨es⟩ := m
  unfold keys insert at *
  dsimp only at *
  induction es with
  | nil => exact List.nodup_singleton k
  | cons e es ih =>
      rw [List.map_cons, List.nodup_cons] at h
      unfold insertIn
      split
      · rw [List.map_cons, List.nodup_cons]
        exact h
      · next hne =>
          rw [List.map_cons, List.nodup_cons]
          refine ⟨fun hmem => ?_, ih h.2⟩
          obtain ⟨e', he', heq⟩ := List.mem_map.1 hmem
          rcases eq_or_mem_of_mem_insertIn he' with rfl | he'
          · exact hne heq.symm
          · exact h.1 (heq ▸ List.mem_map_of_mem he')

theorem nodup_keys_erase (h : m.keys.Nodup) (k : κ) : (m.erase k).keys.Nodup :=
  h.sublist (List.filter_sublist.map _)

end OrderedMap

namespace Bundle

/-- Whether a bundle has a parameter of that name. -/
def Declares (b : Bundle) (name : String) : Prop := name ∈ b.parameters.keys

/-- A bundle in which the objects refer to declared parameters that they do not outlast, and the
`steady` names are those of parameters that stay. -/
structure Accounted (steady : String → Prop) (b : Bundle) : Prop where
  keyed : ∀ e ∈ b.objects.entries, e.1 = e.2.key
  distinct : b.objects.keys.Nodup
  objects : ∀ e ∈ b.objects.entries,
    e.2.Fillable fun name => b.Declares name ∧ b.capabilities.Grants e.1 name
  named : ∀ e ∈ b.parameters.entries, e.1 = e.2.name
  parameters : ∀ e ∈ b.parameters.entries, e.2.Harmless
  steady : ∀ name, steady name → b.Declares name ∧ b.capabilities.Retains name
  tidy : b.capabilities.Tidy
  environment : ∀ s ∈ b.capabilities.sharedStorage,
    b.kindAt (.template .configMap s.environmentConfigMap) = some .configMap

variable {steady : String → Prop} {b : Bundle} {s : Step} {steps : List Step}

/-- What is accounted for can be filled. -/
theorem Accounted.fillable (hb : b.Accounted steady) : b.Fillable where
  keyed := hb.keyed
  distinct := hb.distinct
  objects e he := by
    refine (hb.objects e he).mono fun name hname => ?_
    obtain ⟨e', he', rfl⟩ := List.mem_map.1 hname.1
    rw [hb.named e' he']
    exact List.mem_map_of_mem (List.mem_map_of_mem he')
  parameters p hp := by
    obtain ⟨k, hk⟩ := OrderedMap.mem_values.1 hp
    exact hb.parameters _ hk

/-! ## Steps that refer to steady names -/

/-- A step that leaves identities, environments and parameter names, and that writes no other
references than those to steady names. -/
def Step.Safe (steady : String → Prop) (c : Capabilities) : Step → Prop
  | .change f => ∀ k r, (f k r).key = r.key ∧ ∀ declared : String → Prop,
      (∀ name, steady name → declared name) → r.Fillable declared → (f k r).Fillable declared
  | .put r => r.kind ≠ .configMap ∧ r.Fillable steady
  | .remove k => ∀ s ∈ c.sharedStorage, k ≠ .template .configMap s.environmentConfigMap
  | .removeParameter _ => False
  | .setDefault _ value => ∀ text ∈ value, Plain text

theorem Step.Safe.spares {c : Capabilities} (hs : s.Safe steady c) {storage : SharedStorage}
    (hstorage : storage ∈ c.sharedStorage) :
    s.Spares (.template .configMap storage.environmentConfigMap) := by
  cases s with
  | change f => exact fun r => congrArg ObjectKey.kind (hs _ r).1
  | put r => exact fun heq => hs.1 (congrArg ObjectKey.kind heq)
  | remove k => exact hs storage hstorage
  | removeParameter name => trivial
  | setDefault name value => trivial

theorem Step.Safe.objects (hs : s.Safe steady b.capabilities) (hb : b.Accounted steady) :
    (s.run b).objects.keys.Nodup ∧ ∀ e ∈ (s.run b).objects.entries, e.1 = e.2.key ∧
      e.2.Fillable fun name => b.Declares name ∧ b.capabilities.Grants e.1 name := by
  cases s with
  | change f =>
      refine ⟨?_, fun e he => ?_⟩
      · rw [Step.run, OrderedMap.keys_mapEntries]
        exact hb.distinct
      · obtain ⟨old, hold, rfl⟩ := List.mem_map.1 he
        obtain ⟨hkey, htexts⟩ := hs old.1 old.2
        exact ⟨(hb.keyed old hold).trans hkey.symm, htexts _ (fun name hname =>
          (hb.steady name hname).imp_right (·.grants old.1)) (hb.objects old hold)⟩
  | put r =>
      refine ⟨OrderedMap.nodup_keys_insert hb.distinct, fun e he => ?_⟩
      rcases OrderedMap.eq_or_mem_of_mem_insertIn he with rfl | he
      · exact ⟨rfl, hs.2.mono fun name hname => (hb.steady name hname).imp_right (·.grants r.key)⟩
      · exact ⟨hb.keyed e he, hb.objects e he⟩
  | remove k =>
      refine ⟨OrderedMap.nodup_keys_erase hb.distinct k, fun e he => ?_⟩
      have he := (List.mem_filter.1 he).1
      exact ⟨hb.keyed e he, hb.objects e he⟩
  | removeParameter name => exact hs.elim
  | setDefault name value => exact ⟨hb.distinct, fun e he => ⟨hb.keyed e he, hb.objects e he⟩⟩

theorem Step.Safe.parameters (hs : s.Safe steady b.capabilities) (hb : b.Accounted steady) :
    (s.run b).parameters.keys = b.parameters.keys ∧
      ∀ e ∈ (s.run b).parameters.entries, e.1 = e.2.name ∧ e.2.Harmless := by
  have hsame : ∀ e ∈ b.parameters.entries, e.1 = e.2.name ∧ e.2.Harmless :=
    fun e he => ⟨hb.named e he, hb.parameters e he⟩
  cases s with
  | setDefault name value =>
      constructor
      · unfold OrderedMap.keys Step.run Bundle.setDefault OrderedMap.modify
        rw [List.map_map]
        refine List.map_congr_left fun e _ => ?_
        dsimp only [Function.comp_apply]
        split <;> rfl
      · intro e he
        obtain ⟨old, hold, rfl⟩ := List.mem_map.1 he
        obtain ⟨hname, hharmless⟩ := hsame old hold
        dsimp only
        split
        · exact ⟨hname, hs, hharmless.generator⟩
        · exact ⟨hname, hharmless⟩
  | removeParameter name => exact hs.elim
  | _ => exact ⟨rfl, hsame⟩

theorem Accounted.run (hb : b.Accounted steady) (hs : s.Safe steady b.capabilities) :
    (s.run b).Accounted steady := by
  obtain ⟨hdistinct, hobjects⟩ := hs.objects hb
  obtain ⟨hnames, hparameters⟩ := hs.parameters hb
  have hdeclares : ∀ name, (s.run b).Declares name ↔ b.Declares name := by
    intro name
    rw [Declares, Declares, hnames]
  constructor
  case keyed => exact fun e he => (hobjects e he).1
  case distinct => exact hdistinct
  case objects =>
    simp only [hdeclares, Step.capabilities_run]
    exact fun e he => (hobjects e he).2
  case named => exact fun e he => (hparameters e he).1
  case parameters => exact fun e he => (hparameters e he).2
  case steady =>
    simp only [hdeclares, Step.capabilities_run]
    exact hb.steady
  case tidy =>
    rw [Step.capabilities_run]
    exact hb.tidy
  case environment =>
    rw [Step.capabilities_run]
    exact fun storage hstorage => ((hs.spares hstorage).kindAt_run b).trans
      (hb.environment storage hstorage)

theorem Accounted.runSteps (hb : b.Accounted steady)
    (hsteps : ∀ s ∈ steps, s.Safe steady b.capabilities) : (runSteps steps b).Accounted steady := by
  induction steps generalizing b with
  | nil => exact hb
  | cons s steps ih =>
      obtain ⟨hs, hrest⟩ := List.forall_mem_cons.1 hsteps
      refine ih (hb.run hs) ?_
      rw [Step.capabilities_run]
      exact hrest

/-! ## Parameters that leave -/

/-- A parameter can leave once the objects that may refer to it are gone or refer to steady names
only. -/
theorem Accounted.removeParameter {name : String} (hb : b.Accounted steady)
    (hretained : ¬b.capabilities.Retains name)
    (hunused : ∀ e ∈ b.objects.entries, b.capabilities.Grants e.1 name → e.2.Fillable steady) :
    (b.removeParameter name).Accounted steady := by
  have hdeclares : ∀ n, b.Declares n → n ≠ name → (b.removeParameter name).Declares n := by
    intro n hn hne
    obtain ⟨e, he, rfl⟩ := List.mem_map.1 hn
    exact List.mem_map_of_mem (List.mem_filter.2 ⟨he, decide_eq_true hne⟩)
  have hsteady : ∀ n, steady n →
      (b.removeParameter name).Declares n ∧ b.capabilities.Retains n := by
    intro n hn
    obtain ⟨hdeclared, hretains⟩ := hb.steady n hn
    exact ⟨hdeclares n hdeclared fun heq => hretained (heq ▸ hretains), hretains⟩
  constructor
  case keyed => exact hb.keyed
  case distinct => exact hb.distinct
  case objects =>
    intro e he
    by_cases hgrants : b.capabilities.Grants e.1 name
    · exact (hunused e he hgrants).mono fun n hn => (hsteady n hn).imp_right (·.grants e.1)
    · refine (hb.objects e he).mono fun n hn => ⟨hdeclares n hn.1 ?_, hn.2⟩
      rintro rfl
      exact hgrants hn.2
  case named => exact fun e he => hb.named e (List.mem_filter.1 he).1
  case parameters => exact fun e he => hb.parameters e (List.mem_filter.1 he).1
  case steady => exact hsteady
  case tidy => exact hb.tidy
  case environment => exact hb.environment

theorem Accounted.removeParameters {names : List String} (hb : b.Accounted steady)
    (hretained : ∀ name ∈ names, ¬b.capabilities.Retains name)
    (hunused : ∀ name ∈ names, ∀ e ∈ b.objects.entries, b.capabilities.Grants e.1 name →
      e.2.Fillable steady) :
    (Bundle.runSteps (names.map .removeParameter) b).Accounted steady := by
  induction names generalizing b with
  | nil => exact hb
  | cons name names ih =>
      obtain ⟨hname, hnames⟩ := List.forall_mem_cons.1 hretained
      obtain ⟨hunusedName, hunusedNames⟩ := List.forall_mem_cons.1 hunused
      exact ih (hb.removeParameter hname hunusedName) hnames hunusedNames

end Bundle

end ApiPlatform
