import ApiPlatform.Proofs.Reconcile.Stages
import Mathlib.Data.List.Nodup
/-!
# Runs that overlap

However the calls of several runs are interleaved, the runs that succeed might as well have been
executed one after the other, in the order in which they took effect, and the others not at all.
-/

namespace ApiPlatform

/-- Runs for several objects, one after the other. -/
def MemoryStore.execAll : List WantedObject → MemoryStore →
    List (Except StoreError ObjectOutcome) × MemoryStore
  | [], s => ([], s)
  | w :: ws, s =>
    let (r, s) := s.exec w.reconcile
    let (rs, s) := MemoryStore.execAll ws s
    (r :: rs, s)

namespace WantedObject

variable {n : Nat} {jobs : Fin n → WantedObject} {s t : MemoryStore} {i : Fin n}
  {pool : Fin n → StoreProgram (Except StoreError ObjectOutcome)}

theorem execAll_append (ws ws' : List WantedObject) (s : MemoryStore) :
    s.execAll (ws ++ ws') =
      ((s.execAll ws).1 ++ ((s.execAll ws).2.execAll ws').1, ((s.execAll ws).2.execAll ws').2) := by
  induction ws generalizing s with
  | nil => rfl
  | cons w ws ih => simp [MemoryStore.execAll, ih]

theorem sound_execAll (ws : List WantedObject) (hs : s.Sound) : (s.execAll ws).2.Sound := by
  induction ws generalizing s with
  | nil => exact hs
  | cons w ws ih => exact ih (hs.run _)

theorem failing_execAll (ws : List WantedObject) (s : MemoryStore) :
    (s.execAll ws).2.failing = s.failing := by
  induction ws generalizing s with
  | nil => rfl
  | cons w ws ih => exact (ih _).trans (MemoryStore.failing_run _)

/-- The store and the pool are where the runs of an order would have come to, executed one after
the other; the other runs stand where they have not done anything. -/
structure Linearized (jobs : Fin n → WantedObject) (s : MemoryStore)
    (pool : Fin n → StoreProgram (Except StoreError ObjectOutcome)) (t : MemoryStore)
    (order : List (Fin n)) : Prop where
  sound : t.Sound
  failing : t.failing = []
  nodup : order.Nodup
  stage : ∀ i, ∃ key, (jobs i).storeKey = .ok key ∧ (jobs i).Stage key t (pool i)
  mem : ∀ i, i ∈ order ↔ ∃ o, pool i = .done (.ok o)
  results : (s.execAll (order.map jobs)).1.map .done = order.map pool
  contents : (s.execAll (order.map jobs)).2.contents = t.contents

variable {order : List (Fin n)}

theorem Linearized.start (hs : s.Sound) (hfailing : s.failing = [])
    (hjobs : ∀ i, ∃ key, (jobs i).storeKey = .ok key) :
    Linearized jobs s (fun i => (jobs i).reconcile.run) s [] where
  sound := hs
  failing := hfailing
  nodup := List.nodup_nil
  stage := by
    intro i
    obtain ⟨key, hkey⟩ := hjobs i
    exact ⟨key, hkey, .start⟩
  mem := by
    intro i
    obtain ⟨key, hkey⟩ := hjobs i
    simp [reconcile_ne_done hkey]
  results := rfl
  contents := rfl

/-- A step without effect leaves the order as it is. -/
theorem Linearized.silent (h : Linearized jobs s pool t order) {key : StoreKey}
    {p : StoreProgram (Except StoreError ObjectOutcome)} {u : MemoryStore}
    (hu : u.Sound) (hfailing : u.failing = []) (hkey : (jobs i).storeKey = .ok key)
    (hcontents : u.contents = t.contents) (hstage : (jobs i).Stage key u p)
    (hdone : ∀ o, p = .done (.ok o) ↔ pool i = .done (.ok o)) :
    Linearized jobs s (Function.update pool i p) u order where
  sound := hu
  failing := hfailing
  nodup := h.nodup
  stage := by
    intro j
    by_cases hj : j = i
    · subst hj
      rw [Function.update_self]
      exact ⟨key, hkey, hstage⟩
    · rw [Function.update_of_ne hj]
      obtain ⟨key', hkey', hstage'⟩ := h.stage j
      exact ⟨key', hkey', hstage'.of_contents_eq hcontents.symm⟩
  mem := by
    intro j
    rw [h.mem]
    by_cases hj : j = i
    · subst hj
      rw [Function.update_self]
      exact exists_congr fun o => (hdone o).symm
    · rw [Function.update_of_ne hj]
  results := by
    rw [h.results]
    refine List.map_congr_left fun j hj => ?_
    by_cases hji : j = i
    · subst hji
      obtain ⟨o, ho⟩ := (h.mem j).1 hj
      rw [Function.update_self, ho, (hdone o).2 ho]
    · rw [Function.update_of_ne hji]
  contents := h.contents.trans hcontents.symm

/-- A step that takes effect comes last in the order. -/
theorem Linearized.effect (h : Linearized jobs s pool t order) (hs : s.Sound)
    (hsfailing : s.failing = []) {key : StoreKey} {u : MemoryStore}
    (hu : u.Sound) (hfailing : u.failing = []) (hkey : (jobs i).storeKey = .ok key)
    (hrunning : ∀ o, pool i ≠ .done (.ok o))
    (hcontents : u.contents = (jobs i).settle t.contents) :
    Linearized jobs s (Function.update pool i (.done (.ok ((jobs i).outcome key t)))) u
      (order ++ [i]) := by
  have hnew : i ∉ order := by
    intro hi
    obtain ⟨o, ho⟩ := (h.mem i).1 hi
    exact hrunning o ho
  obtain ⟨hresult, hstore⟩ := exec_reconcile (sound_execAll (order.map jobs) hs)
    ((failing_execAll _ s).trans hsfailing) hkey
  rw [outcome_of_contents_eq h.contents] at hresult
  rw [h.contents, ← hcontents] at hstore
  refine ⟨hu, hfailing, by simpa using h.nodup.concat hnew, ?_, ?_, ?_, ?_⟩
  · intro j
    by_cases hj : j = i
    · subst hj
      rw [Function.update_self]
      exact ⟨key, hkey, .succeeded _⟩
    · rw [Function.update_of_ne hj]
      obtain ⟨key', hkey', hstage⟩ := h.stage j
      exact ⟨key', hkey', hstage.settle h.sound hkey hcontents⟩
  · intro j
    by_cases hj : j = i
    · subst hj
      simp
    · simp [hj, h.mem]
  · rw [List.map_append, List.map_append, execAll_append, List.map_append, h.results]
    refine congrArg₂ _ (List.map_congr_left fun j hj => ?_) ?_
    · have hji : j ≠ i := fun heq => hnew (heq ▸ hj)
      rw [Function.update_of_ne hji]
    · simp [MemoryStore.execAll, hresult]
  · rw [List.map_append, execAll_append]
    exact hstore

/-- One more step, of any run. -/
theorem Linearized.step (h : Linearized jobs s pool t order) (hs : s.Sound)
    (hsfailing : s.failing = []) (i : Fin n) :
    ∃ order', Linearized jobs s (Function.update pool i (t.step (pool i)).1)
      (t.step (pool i)).2 order' := by
  obtain ⟨key, hkey, hstage⟩ := h.stage i
  have hprogress := hstage.progress h.sound h.failing hkey
  have hsound := h.sound.step (pool i)
  have hfailing := (MemoryStore.failing_step (s := t) (pool i)).trans h.failing
  generalize (t.step (pool i)).1 = p at hprogress ⊢
  generalize (t.step (pool i)).2 = u at hprogress hsound hfailing ⊢
  cases hprogress with
  | silent hcontents hstage' hdone =>
      exact ⟨order, h.silent hsound hfailing hkey hcontents hstage' hdone⟩
  | effect hrunning hcontents =>
      exact ⟨_, h.effect hs hsfailing hsound hfailing hkey hrunning hcontents⟩

theorem Linearized.interleave (h : Linearized jobs s pool t order) (hs : s.Sound)
    (hsfailing : s.failing = []) (schedule : List (Fin n)) :
    ∃ order', Linearized jobs s (MemoryStore.interleave schedule pool t).1
      (MemoryStore.interleave schedule pool t).2 order' := by
  induction schedule generalizing pool t order with
  | nil => exact ⟨order, h⟩
  | cons i schedule ih =>
      obtain ⟨order', h'⟩ := h.step hs hsfailing i
      exact ih h'

/-- A step of a run that fails in the end does nothing to the contents of the store. -/
theorem contents_step_of_failed (h : Linearized jobs s pool t order) {later : List (Fin n)}
    {e : StoreError}
    (hfails : (MemoryStore.interleave (i :: later) pool t).1 i = .done (.error e)) :
    (t.step (pool i)).2.contents = t.contents := by
  obtain ⟨key, hkey, hstage⟩ := h.stage i
  have hprogress := hstage.progress h.sound h.failing hkey
  generalize hp : (t.step (pool i)).1 = p at hprogress
  generalize (t.step (pool i)).2 = u at hprogress ⊢
  cases hprogress with
  | silent hcontents _ _ => exact hcontents
  | effect _ _ =>
      have hstopped : Function.update pool i (t.step (pool i)).1 i =
          .done (.ok ((jobs i).outcome key t)) := by
        rw [Function.update_self, hp]
      have hboth := hfails.symm.trans (MemoryStore.interleave_done hstopped later)
      simp at hboth

/-- However the calls of runs are interleaved in a store that refuses nothing, and however far they
have come: a run ends with its second call or before, it fails only because another one came before
it, and does nothing to the contents of the store then.  Those that succeeded say what they would
have said if just they had been executed, one after the other in some order, which leaves the same
contents. -/
theorem linearizable (jobs : Fin n → WantedObject) (hs : s.Reachable) (hfailing : s.failing = [])
    (hjobs : ∀ i, ((jobs i).kind.kind.metadata (jobs i).object).namespace.isSome)
    (schedule : List (Fin n)) :
    let start := fun i => (jobs i).reconcile.run
    let pool := (MemoryStore.interleave schedule start s).1
    let t := (MemoryStore.interleave schedule start s).2
    (∀ i, 2 ≤ schedule.count i → ∃ result, pool i = .done result) ∧
      (∀ i e, pool i = .done (.error e) →
        (∃ key, e = .alreadyExists key) ∨ ∃ key stale, e = .conflict key stale) ∧
      (∀ i e before later, pool i = .done (.error e) → schedule = before ++ i :: later →
        let u := (MemoryStore.interleave before start s).2
        let u' := (MemoryStore.interleave (before ++ [i]) start s).2
        u'.objects = u.objects ∧ u'.lastVersion = u.lastVersion) ∧
      ∃ order : List (Fin n), order.Nodup ∧
        (∀ i, i ∈ order ↔ ∃ outcome, pool i = .done (.ok outcome)) ∧
        (s.execAll (order.map jobs)).1.map .done = order.map pool ∧
        t.objects = (s.execAll (order.map jobs)).2.objects ∧
        t.lastVersion = (s.execAll (order.map jobs)).2.lastVersion := by
  intro start pool t
  have hkeys : ∀ i, ∃ key, (jobs i).storeKey = .ok key := by
    intro i
    obtain ⟨ns, hns⟩ := Option.isSome_iff_exists.1 (hjobs i)
    exact ⟨⟨_, ns, _⟩, Kind.storeKey_eq_ok.2 ⟨rfl, hns, rfl⟩⟩
  have hstart : Linearized jobs s start s [] := Linearized.start hs.sound hfailing hkeys
  obtain ⟨order, hreached⟩ := hstart.interleave hs.sound hfailing schedule
  refine ⟨fun i hturns => ?_, fun i e hfails => ?_, fun i e before later hfails hschedule => ?_,
    order, hreached.nodup, hreached.mem, hreached.results,
    MemoryStore.contents_eq_iff.1 hreached.contents.symm⟩
  · obtain ⟨key, hkey⟩ := hkeys i
    have hends : (start i).EndsWithin 2 := endsWithin_reconcile hkey
    exact MemoryStore.interleave_eq_done hends hturns
  · obtain ⟨key, hkey, hstage⟩ := hreached.stage i
    cases hstage.overtaken hkey hfails with
    | alreadyExists key => exact .inl ⟨key, rfl⟩
    | conflict key stale => exact .inr ⟨key, stale, rfl⟩
  · subst hschedule
    obtain ⟨order', hbefore⟩ := hstart.interleave hs.sound hfailing before
    change (MemoryStore.interleave (before ++ i :: later) start s).1 i = _ at hfails
    rw [MemoryStore.interleave_append] at hfails
    rw [MemoryStore.interleave_append]
    exact MemoryStore.contents_eq_iff.1 (contents_step_of_failed hbefore hfails)

/-- Two runs that want different values under one key. -/
def rivals (i : Fin 2) : WantedObject :=
  { kind := .configMap
    object :=
      ({ metadata := { name := some "shared", «namespace» := some "apis" }
         data := some (.ofList [("winner", toString i)]) } : ConfigMap) }

/-- What they come to if both look before either writes. -/
def rivalResults : Fin 2 → Except StoreError ObjectOutcome
  | 0 => .ok .created
  | 1 => .error (.alreadyExists ⟨.configMap, "apis", "shared"⟩)

theorem interleave_rivals :
    (MemoryStore.interleave [0, 1, 0, 1] (fun i => (rivals i).reconcile.run) {}).1 =
      fun i => .done (rivalResults i) := by
  funext i
  match i with
  | 0 => rfl
  | 1 => rfl

theorem rivals_linearizable :
    ∃ order : List (Fin 2), order.Nodup ∧ (∀ i, i ∈ order ↔ ∃ o, rivalResults i = .ok o) ∧
      (MemoryStore.interleave [0, 1, 0, 1] (fun i => (rivals i).reconcile.run) {}).2.objects =
        (MemoryStore.execAll (order.map rivals) {}).2.objects := by
  obtain ⟨-, -, -, order, hnodup, hmem, -, hobjects, -⟩ :=
    linearizable rivals MemoryStore.Reachable.empty rfl (fun i => rfl) [0, 1, 0, 1]
  refine ⟨order, hnodup, fun i => ?_, hobjects⟩
  rw [hmem, interleave_rivals]
  simp

end WantedObject

end ApiPlatform
