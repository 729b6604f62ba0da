import Mathlib.Data.List.Induction
import ApiPlatform.Transform.Chain
/-!
# The order in which a chain runs

A chain is the stable sort by stage of the transforms that were added to it: stage by stage, and
within a stage as they were added.  Sorting again after every addition comes to the same.  The
first transform that fails ends a run with its error, so the order of addition counts only within
a stage (`TransformChain.runs_by_stage`).
-/

namespace ApiPlatform

/-- All stages in the order in which they run. -/
def TransformStage.all : List TransformStage :=
  [.productized, .highAvailability, .externalStorage, .evaluation]

theorem TransformStage.rank_injective {s s' : TransformStage} (h : s.rank = s'.rank) : s = s' := by
  cases s <;> cases s' <;> first | rfl | exact absurd h (by decide)

namespace TransformChain

variable {ts us chain chain' : List Transform} {t : Transform} {s : TransformStage}
variable {b b' : Bundle} {e : TransformError}

/-- The transforms of one stage, as they stand in a list. -/
def ofStage (s : TransformStage) (ts : List Transform) : List Transform :=
  ts.filter (·.stage = s)

/-- Whether a transform may stand before another one. -/
def stageLE (t u : Transform) : Bool := t.stage.rank ≤ u.stage.rank

/-- No transform stands behind one of a later stage. -/
def Staged (ts : List Transform) : Prop := ts.Pairwise fun t u => t.stage.rank ≤ u.stage.rank

/-- The chain has the given transforms, stage by stage, and within a stage in the given order. -/
structure StablySorted (ts chain : List Transform) : Prop where
  perm : chain.Perm ts
  staged : Staged chain
  ties : ∀ s, ofStage s chain = ofStage s ts

/-! ## Stages and order determine a chain -/

theorem mem_ofStage {u : Transform} : u ∈ ofStage s ts ↔ u ∈ ts ∧ u.stage = s := by
  simp [ofStage]

theorem ofStage_append (s : TransformStage) (ts us : List Transform) :
    ofStage s (ts ++ us) = ofStage s ts ++ ofStage s us := List.filter_append ..

@[simp] theorem ofStage_nil (s : TransformStage) : ofStage s [] = [] := rfl

@[simp] theorem ofStage_cons_self (t : Transform) (ts : List Transform) :
    ofStage t.stage (t :: ts) = t :: ofStage t.stage ts := by
  simp [ofStage]

theorem ofStage_cons_of_ne (ts : List Transform) (h : t.stage ≠ s) :
    ofStage s (t :: ts) = ofStage s ts := by
  simp [ofStage, h]

/-- The first of a chain has no later stage than the first of any chain with the same stages. -/
theorem rank_head_le {u : Transform} (h : Staged (t :: chain))
    (hstages : ∀ s, ofStage s (t :: chain) = ofStage s (u :: chain')) :
    t.stage.rank ≤ u.stage.rank := by
  have hmem : u ∈ ofStage u.stage (t :: chain) := by
    rw [hstages, ofStage_cons_self]
    exact List.mem_cons_self
  rcases List.mem_cons.1 (mem_ofStage.1 hmem).1 with rfl | hu
  · exact Nat.le_refl _
  · exact List.rel_of_pairwise_cons h hu

theorem eq_of_ofStage_eq (h : Staged chain) (h' : Staged chain')
    (hstages : ∀ s, ofStage s chain = ofStage s chain') : chain = chain' := by
  induction chain generalizing chain' with
  | nil =>
      cases chain' with
      | nil => rfl
      | cons u chain' => simpa using hstages u.stage
  | cons t chain ih =>
      cases chain' with
      | nil => simpa using hstages t.stage
      | cons u chain' =>
          have hrank := Nat.le_antisymm (rank_head_le h hstages)
            (rank_head_le h' fun s => (hstages s).symm)
          have hstage : t.stage = u.stage := TransformStage.rank_injective hrank
          have hhead := hstages t.stage
          rw [ofStage_cons_self, hstage, ofStage_cons_self] at hhead
          obtain ⟨rfl, -⟩ := List.cons.inj hhead
          refine congrArg (t :: ·) (ih h.of_cons h'.of_cons fun s => ?_)
          have hs := hstages s
          by_cases hts : t.stage = s
          · subst hts
            simpa using hs
          · rwa [ofStage_cons_of_ne _ hts, ofStage_cons_of_ne _ hts] at hs

theorem StablySorted.unique (h : StablySorted ts chain) (h' : StablySorted ts chain') :
    chain = chain' :=
  eq_of_ofStage_eq h.staged h'.staged fun s => (h.ties s).trans (h'.ties s).symm

/-! ## Three ways to sort -/

theorem staged_ofStage (s : TransformStage) (ts : List Transform) : Staged (ofStage s ts) :=
  List.pairwise_filter.2 <| List.pairwise_of_forall fun t u ht hu => by
    simp only [decide_eq_true_eq] at ht hu
    exact Nat.le_of_eq (congrArg TransformStage.rank (ht.trans hu.symm))

/-- Sorting keeps what was in order, so it keeps the transforms of a stage as they stood. -/
theorem stablySorted_mergeSort (ts : List Transform) :
    StablySorted ts (ts.mergeSort stageLE) := by
  have htrans : ∀ t u v, stageLE t u = true → stageLE u v = true → stageLE t v = true := by
    simp only [stageLE, decide_eq_true_eq]
    exact fun _ _ _ => Nat.le_trans
  have htotal : ∀ t u, (stageLE t u || stageLE u t) = true := by
    simp only [stageLE, Bool.or_eq_true, decide_eq_true_eq]
    exact fun _ _ => Nat.le_total _ _
  have hperm := List.mergeSort_perm ts stageLE
  refine ⟨hperm, (List.pairwise_mergeSort htrans htotal ts).imp (by simp [stageLE]), fun s => ?_⟩
  have hstage : (ofStage s ts).Pairwise fun t u => stageLE t u = true :=
    (staged_ofStage s ts).imp (by simp [stageLE])
  have hsub := (List.sublist_mergeSort htrans htotal hstage List.filter_sublist).filter
    (·.stage = s)
  refine (hsub.eq_of_length ?_).symm.trans ?_
  · simpa [ofStage] using (hperm.filter (·.stage = s)).length_eq.symm
  · simp [ofStage]

/-- The stages one after the other. -/
theorem flatMap_ofStage (ts : List Transform) :
    TransformStage.all.flatMap (ofStage · ts) = ts.mergeSort stageLE := by
  have hsorted := stablySorted_mergeSort ts
  refine eq_of_ofStage_eq (List.pairwise_flatMap.2 ⟨fun s _ => staged_ofStage s ts, ?_⟩)
    hsorted.staged fun s => ?_
  · have hstages : TransformStage.all.Pairwise fun s s' => s.rank ≤ s'.rank := by decide
    refine hstages.imp fun hrank t ht u hu => ?_
    rw [(mem_ofStage.1 ht).2, (mem_ofStage.1 hu).2]
    exact hrank
  · rw [hsorted.ties]
    have hother : ∀ s', ofStage s (ofStage s' ts) = if s' = s then ofStage s ts else [] := by
      intro s'
      split_ifs with heq
      · simp [ofStage, heq]
      · exact List.filter_eq_nil_iff.2 fun t ht => by simp [(mem_ofStage.1 ht).2, heq]
    calc ofStage s (TransformStage.all.flatMap (ofStage · ts))
        = TransformStage.all.flatMap fun s' => if s' = s then ofStage s ts else [] := by
          simp only [ofStage, List.filter_flatMap] at hother ⊢
          simp only [hother]
      _ = ofStage s ts := by cases s <;> simp [TransformStage.all]

/-- A transform comes between the stages up to its own and the later ones. -/
theorem insertByStage_split (t : Transform) (h : Staged chain) :
    ∃ before after, chain = before ++ after ∧ insertByStage t chain = before ++ t :: after ∧
      (∀ u ∈ before, u.stage.rank ≤ t.stage.rank) ∧ ∀ u ∈ after, t.stage.rank < u.stage.rank := by
  induction chain with
  | nil => exact ⟨[], [], rfl, rfl, by simp, by simp⟩
  | cons u chain ih =>
      unfold insertByStage
      by_cases hrank : t.stage.rank < u.stage.rank
      · refine ⟨[], u :: chain, rfl, if_pos hrank, by simp, List.forall_mem_cons.2 ⟨hrank, ?_⟩⟩
        exact fun v hv => Nat.lt_of_lt_of_le hrank (List.rel_of_pairwise_cons h hv)
      · obtain ⟨before, after, rfl, hinsert, hbefore, hafter⟩ := ih h.of_cons
        refine ⟨u :: before, after, rfl, ?_, ?_, hafter⟩
        · rw [if_neg hrank, hinsert, List.cons_append]
        · exact List.forall_mem_cons.2 ⟨Nat.not_lt.1 hrank, hbefore⟩

/-- Adding a transform to a sorted chain leaves it sorted. -/
theorem StablySorted.insertByStage (t : Transform) (h : StablySorted ts chain) :
    StablySorted (ts ++ [t]) (insertByStage t chain) := by
  obtain ⟨before, after, rfl, hinsert, hbefore, hafter⟩ := insertByStage_split t h.staged
  obtain ⟨hstaged, hstaged', hcross⟩ := List.pairwise_append.1 h.staged
  rw [hinsert]
  refine ⟨?_, List.pairwise_append.2 ⟨hstaged, ?_, ?_⟩, fun s => ?_⟩
  · have hperm := (h.perm.cons t).trans (List.perm_append_singleton t ts).symm
    exact List.perm_middle.trans hperm
  · exact List.pairwise_cons.2 ⟨fun u hu => Nat.le_of_lt (hafter u hu), hstaged'⟩
  · intro u hu v hv
    rcases List.mem_cons.1 hv with rfl | hv
    · exact hbefore u hu
    · exact hcross u hu v hv
  · rw [ofStage_append s ts, ← h.ties, ofStage_append, ofStage_append, List.append_assoc]
    refine congrArg (ofStage s before ++ ·) ?_
    by_cases hs : t.stage = s
    · subst hs
      -- Nothing behind the new transform is of its stage.
      have hnone : ofStage t.stage after = [] :=
        List.filter_eq_nil_iff.2 fun u hu hstage => by
          simp only [decide_eq_true_eq] at hstage
          exact Nat.lt_irrefl _ (hstage ▸ hafter u hu)
      rw [ofStage_cons_self, ofStage_cons_self, hnone, ofStage_nil, List.nil_append]
    · rw [ofStage_cons_of_ne _ hs, ofStage_cons_of_ne _ hs, ofStage_nil, List.append_nil]

theorem ofList_append_singleton (ts : List Transform) (t : Transform) :
    ofList (ts ++ [t]) = (ofList ts).add t := List.foldl_append

theorem stablySorted_ofList (ts : List Transform) : StablySorted ts (ofList ts).transforms := by
  induction ts using List.reverseRecOn with
  | nil => exact ⟨.refl [], .nil, fun _ => rfl⟩
  | append_singleton ts t ih =>
      rw [ofList_append_singleton]
      exact ih.insertByStage t

/-- To add a transform is to put it at the end and to sort again. -/
theorem add_eq_mergeSort (ts : List Transform) (t : Transform) :
    ((ofList ts).add t).transforms = ((ofList ts).transforms ++ [t]).mergeSort stageLE := by
  have hsorted : StablySorted (ofList ts).transforms (ofList ts).transforms :=
    ⟨.refl _, (stablySorted_ofList ts).staged, fun _ => rfl⟩
  exact (hsorted.insertByStage t).unique (stablySorted_mergeSort _)

/-! ## Running a chain -/

/-- Each transform takes on the bundle that the one before it left. -/
inductive Passes : List Transform → Bundle → Bundle → Prop
  | nil (b : Bundle) : Passes [] b b
  | cons {t : Transform} {ts : List Transform} {b mid b' : Bundle} :
      t.run b = .ok mid → Passes ts mid b' → Passes (t :: ts) b b'

theorem runAll_cons_of_ok {mid : Bundle} (h : t.run b = .ok mid) :
    runAll (t :: ts) b = runAll ts mid := by
  rw [runAll, h]
  rfl

theorem runAll_cons_of_error (h : t.run b = .error e) : runAll (t :: ts) b = .error e := by
  rw [runAll, h]
  rfl

theorem runAll_eq_ok_iff : runAll ts b = .ok b' ↔ Passes ts b b' := by
  constructor
  · intro h
    induction ts generalizing b with
    | nil =>
        cases h
        exact .nil b'
    | cons t ts ih =>
        cases hrun : t.run b with
        | error e => simp [runAll_cons_of_error hrun] at h
        | ok mid => exact .cons hrun (ih (by rwa [runAll_cons_of_ok hrun] at h))
  · intro h
    induction h with
    | nil b => rfl
    | cons hrun _ ih => rwa [runAll_cons_of_ok hrun]

/-- A run fails exactly with the error of the first transform that fails. -/
theorem runAll_eq_error_iff :
    runAll ts b = .error e ↔
      ∃ before t after mid, ts = before ++ t :: after ∧ Passes before b mid ∧
        t.run mid = .error e := by
  constructor
  · intro h
    induction ts generalizing b with
    | nil => cases h
    | cons t ts ih =>
        cases hrun : t.run b with
        | error e' =>
            obtain rfl : e' = e := by
              rw [runAll_cons_of_error hrun] at h
              exact Except.error.inj h
            exact ⟨[], t, ts, b, rfl, .nil b, hrun⟩
        | ok mid =>
            rw [runAll_cons_of_ok hrun] at h
            obtain ⟨before, u, after, last, rfl, hpasses, hfails⟩ := ih h
            exact ⟨t :: before, u, after, last, rfl, .cons hrun hpasses, hfails⟩
  · rintro ⟨before, t, after, mid, rfl, hpasses, hfails⟩
    induction hpasses with
    | nil b => exact runAll_cons_of_error hfails
    | cons hrun _ ih =>
        rw [List.cons_append, runAll_cons_of_ok hrun]
        exact ih hfails

/-- A chain runs what was added to it in the stable sort by stage, which adding keeps up, and the
first error ends it.  So two orders of addition that agree within every stage make chains that do
the same. -/
theorem runs_by_stage (ts : List Transform) :
    StablySorted ts (ofList ts).transforms ∧
      (ofList ts).transforms = TransformStage.all.flatMap (ofStage · ts) ∧
      (∀ t, (ofList (ts ++ [t])).transforms =
        ((ofList ts).transforms ++ [t]).mergeSort stageLE) ∧
      (∀ b b', (ofList ts).apply b = .ok b' ↔ Passes (ofList ts).transforms b b') ∧
      (∀ b e, (ofList ts).apply b = .error e ↔
        ∃ before t after mid, (ofList ts).transforms = before ++ t :: after ∧
          Passes before b mid ∧ t.run mid = .error e) ∧
      ∀ us, (∀ s, ofStage s us = ofStage s ts) →
        (ofList us).names = (ofList ts).names ∧ ∀ b, (ofList us).apply b = (ofList ts).apply b := by
  have hsorted := stablySorted_ofList ts
  have hstages := (hsorted.unique (stablySorted_mergeSort ts)).trans (flatMap_ofStage ts).symm
  refine ⟨hsorted, hstages, fun t => ?_, fun _ _ => runAll_eq_ok_iff,
    fun _ _ => runAll_eq_error_iff, fun us hus => ?_⟩
  · rw [ofList_append_singleton]
    exact add_eq_mergeSort ts t
  · have hsorted' := stablySorted_ofList us
    have hsame : (ofList us).transforms = (ofList ts).transforms :=
      eq_of_ofStage_eq hsorted'.staged hsorted.staged fun s => by
        rw [hsorted'.ties, hsorted.ties, hus]
    simp only [names, apply, hsame, implies_true, and_self]

example :
    (ofList
      [⟨"relaxed", .evaluation, .ok⟩, ⟨"scaled", .highAvailability, .ok⟩,
        ⟨"addressed", .highAvailability, .ok⟩, ⟨"curated", .productized, .ok⟩]).names =
      ["curated", "scaled", "addressed", "relaxed"] := rfl

end TransformChain

end ApiPlatform
