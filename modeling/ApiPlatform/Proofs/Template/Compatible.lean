import Mathlib.Data.List.Flatten
import ApiPlatform.Proofs.Template.Assembled
/-!
# Compatible contributions

Contributions are put together without a failure if their options can be built, no two of their
parameters share a name and no two of their objects an identity.
-/

namespace ApiPlatform

/-- The objects of a contribution whose options can be built. -/
def Contribution.made (c : Contribution) : List Resource := c.objects.toOption.getD []

/-- Contributions that do not get into each other's way. -/
structure Compatible (cs : List Contribution) : Prop where
  built : ∀ c ∈ cs, c.objects = .ok c.made
  names : ((cs.flatMap (·.parameters)).map (·.name)).Nodup
  keys : ((cs.flatMap (·.made)).map (·.key)).Nodup

theorem Compatible.sublist {cs cs' : List Contribution} (h : Compatible cs')
    (hsub : cs.Sublist cs') : Compatible cs where
  built c hc := h.built c (hsub.subset hc)
  names := h.names.sublist ((hsub.flatMap _).map _)
  keys := h.keys.sublist ((hsub.flatMap _).map _)

theorem OrderedMap.mem_keys_of_contains {κ α : Type} [DecidableEq κ] {m : OrderedMap κ α} {k : κ}
    (h : m.contains k) : k ∈ m.keys := by
  obtain ⟨es⟩ := m
  unfold contains get? keys at *
  dsimp only at *
  induction es with
  | nil => cases h
  | cons e es ih =>
      rw [List.lookup_cons] at h
      split at h
      · next heq => exact List.mem_cons.2 (.inl (eq_of_beq heq))
      · exact List.mem_cons_of_mem _ (ih h)

namespace Bundle

variable {ps newParameters : List Parameter} {rs newObjects : List Resource} {c : Capabilities}
variable {b : Bundle}

/-- The bundle holds the given parameters, objects and declarations. -/
structure Collects (ps : List Parameter) (rs : List Resource) (c : Capabilities) (b : Bundle) :
    Prop extends Holds rs c b where
  parameters : b.parameters.entries = ps.map fun p => (p.name, p)

theorem Collects.keys_parameters (hb : b.Collects ps rs c) :
    b.parameters.keys = ps.map (·.name) := by
  rw [OrderedMap.keys, hb.parameters, List.map_map]
  rfl

theorem Collects.values_parameters (hb : b.Collects ps rs c) : b.parameters.values = ps := by
  rw [OrderedMap.values, hb.parameters, List.map_map]
  exact List.map_id ps

/-! ## Pushing -/

theorem notMem_of_nodup {α β : Type} {f : α → β} {as bs : List α} {a : α}
    (h : ((as ++ [a] ++ bs).map f).Nodup) : f a ∉ as.map f := by
  have hfirst : (as.map f ++ [f a]).Nodup := by
    rw [← List.map_singleton, ← List.map_append]
    exact h.sublist ((List.sublist_append_left _ _).map f)
  exact fun hmem => (List.nodup_append.1 hfirst).2.2 _ hmem _ (List.mem_singleton_self _) rfl

theorem Collects.pushParameter (hb : b.Collects ps rs c) {p : Parameter}
    (hp : p.name ∉ ps.map (·.name)) :
    ∃ b', b.pushParameter p = .ok b' ∧ b'.Collects (ps ++ [p]) rs c := by
  rw [← hb.keys_parameters] at hp
  have hnew : ¬b.parameters.contains p.name := fun h => hp (OrderedMap.mem_keys_of_contains h)
  refine ⟨_, if_neg hnew, ⟨hb.entries, hb.fresh, hb.capabilities⟩, ?_⟩
  rw [OrderedMap.insert_of_notMem hp, hb.parameters, List.map_append]
  rfl

theorem Collects.pushParameters (hb : b.Collects ps rs c)
    (hnames : ((ps ++ newParameters).map (·.name)).Nodup) :
    ∃ b', pushParameters newParameters b = .ok b' ∧ b'.Collects (ps ++ newParameters) rs c := by
  induction newParameters generalizing b ps with
  | nil =>
      rw [List.append_nil]
      exact ⟨b, rfl, hb⟩
  | cons p newParameters ih =>
      rw [List.append_cons] at hnames ⊢
      have hp : p.name ∉ ps.map (·.name) := notMem_of_nodup hnames
      obtain ⟨b₁, hpush, hb₁⟩ := hb.pushParameter hp
      obtain ⟨b₂, hall, hb₂⟩ := ih hb₁ hnames
      refine ⟨b₂, ?_, hb₂⟩
      rw [Bundle.pushParameters, hpush]
      exact hall

theorem Collects.pushObject (hb : b.Collects ps rs c) {r : Resource}
    (hr : r.key ∉ rs.map (·.key)) :
    ∃ b', b.pushObject r = .ok b' ∧ b'.Collects ps (rs ++ [r]) c := by
  rw [← hb.keys] at hr
  have hnew : ¬b.objects.contains r.key := fun h => hr (OrderedMap.mem_keys_of_contains h)
  have hpush : b.pushObject r = .ok { b with objects := b.objects.insert r.key r } := if_neg hnew
  exact ⟨_, hpush, holds_pushObject hb.toHolds hpush, hb.parameters⟩

theorem Collects.pushObjects (hb : b.Collects ps rs c)
    (hkeys : ((rs ++ newObjects).map (·.key)).Nodup) :
    ∃ b', pushObjects newObjects b = .ok b' ∧ b'.Collects ps (rs ++ newObjects) c := by
  induction newObjects generalizing b rs with
  | nil =>
      rw [List.append_nil]
      exact ⟨b, rfl, hb⟩
  | cons r newObjects ih =>
      rw [List.append_cons] at hkeys ⊢
      have hr : r.key ∉ rs.map (·.key) := notMem_of_nodup hkeys
      obtain ⟨b₁, hpush, hb₁⟩ := hb.pushObject hr
      obtain ⟨b₂, hall, hb₂⟩ := ih hb₁ hkeys
      refine ⟨b₂, ?_, hb₂⟩
      rw [Bundle.pushObjects, hpush]
      exact hall

theorem Collects.contribute (hb : b.Collects ps rs c) {d : Contribution}
    (hbuilt : d.objects = .ok d.made) (hnames : ((ps ++ d.parameters).map (·.name)).Nodup)
    (hkeys : ((rs ++ d.made).map (·.key)).Nodup) :
    ∃ b', b.contribute d = .ok b' ∧
      b'.Collects (ps ++ d.parameters) (rs ++ d.made) (c.merge d.capabilities) := by
  obtain ⟨b₁, hparameters, hb₁⟩ := hb.pushParameters hnames
  obtain ⟨b₂, hobjects, hb₂⟩ := hb₁.pushObjects hkeys
  refine ⟨b₂.mergeCapabilities d.capabilities, ?_, ⟨hb₂.entries, hb₂.fresh, ?_⟩, hb₂.parameters⟩
  · rw [Bundle.contribute, hparameters, hbuilt]
    change (Bundle.pushObjects d.made b₁).mapError _ >>= _ = _
    rw [hobjects]
    rfl
  · rw [mergeCapabilities, hb₂.capabilities]

theorem Collects.contributeAll {cs : List Contribution} (hb : b.Collects ps rs c)
    (hbuilt : ∀ d ∈ cs, d.objects = .ok d.made)
    (hnames : ((ps ++ cs.flatMap (·.parameters)).map (·.name)).Nodup)
    (hkeys : ((rs ++ cs.flatMap (·.made)).map (·.key)).Nodup) :
    ∃ b', contributeAll cs b = .ok b' ∧
      b'.Collects (ps ++ cs.flatMap (·.parameters)) (rs ++ cs.flatMap (·.made))
        (c.mergeAll (cs.map (·.capabilities))) := by
  induction cs generalizing b ps rs c with
  | nil =>
      refine ⟨b, rfl, ?_⟩
      simpa [Capabilities.mergeAll] using hb
  | cons d cs ih =>
      obtain ⟨hd, hrest⟩ := List.forall_mem_cons.1 hbuilt
      rw [List.flatMap_cons, ← List.append_assoc] at hnames hkeys ⊢
      rw [List.flatMap_cons, ← List.append_assoc]
      have hnames₁ := hnames.sublist ((List.sublist_append_left _ _).map _)
      have hkeys₁ := hkeys.sublist ((List.sublist_append_left _ _).map _)
      obtain ⟨b₁, hcontribute, hb₁⟩ := hb.contribute hd hnames₁ hkeys₁
      obtain ⟨b₂, hall, hb₂⟩ := ih hb₁ hrest hnames hkeys
      refine ⟨b₂, ?_, hb₂⟩
      rw [Bundle.contributeAll, hcontribute]
      exact hall

/-- Compatible contributions can be assembled, and the bundle holds what they bring. -/
theorem exists_assemble {cs : List Contribution} (hcs : Compatible cs) :
    ∃ b, assemble cs = .ok b ∧ b.Collects (cs.flatMap (·.parameters)) (cs.flatMap (·.made))
      (Capabilities.mergeAll {} (cs.map (·.capabilities))) := by
  have hempty : Bundle.Collects [] [] {} {} := ⟨⟨rfl, .nil, rfl⟩, rfl⟩
  exact hempty.contributeAll hcs.built hcs.names hcs.keys

end Bundle

end ApiPlatform
