import ApiPlatform.Proofs.Store.Reachable
/-!
# Running store programs

How the run of a composed program follows from the runs of its parts.  No operation looks at the
recorded calls, so stores that differ in nothing else answer alike (`MemoryStore.run_congr`), and a
program that only reads changes nothing else (`MemoryStore.run_of_isReadOnly`).
-/

namespace ApiPlatform

namespace StoreProgram

variable {α β γ : Type}

/-- The program never writes. -/
def IsReadOnly : StoreProgram α → Prop
  | .done _ => True
  | .get _ _ _ next => ∀ answer, IsReadOnly (next answer)
  | .create _ _ _ => False
  | .update _ _ _ => False

theorem IsReadOnly.bind {p : StoreProgram α} {f : α → StoreProgram β} (hp : p.IsReadOnly)
    (hf : ∀ a, (f a).IsReadOnly) : (p >>= f).IsReadOnly := by
  induction p with
  | done a => exact hf a
  | get k ns name next ih => exact fun answer => ih answer (hp answer)
  | create k o next => exact hp.elim
  | update k o next => exact hp.elim

theorem bind_done (p : StoreProgram α) : p >>= StoreProgram.done = p := by
  induction p with
  | done a => rfl
  | get k ns name next ih => exact congrArg (StoreProgram.get k ns name) (funext ih)
  | create k o next ih => exact congrArg (StoreProgram.create k o) (funext ih)
  | update k o next ih => exact congrArg (StoreProgram.update k o) (funext ih)

theorem bind_bind (p : StoreProgram α) (f : α → StoreProgram β) (g : β → StoreProgram γ) :
    p >>= f >>= g = p >>= fun a => f a >>= g := by
  induction p with
  | done a => rfl
  | get k ns name next ih => exact congrArg (StoreProgram.get k ns name) (funext ih)
  | create k o next ih => exact congrArg (StoreProgram.create k o) (funext ih)
  | update k o next ih => exact congrArg (StoreProgram.update k o) (funext ih)

instance : LawfulMonad StoreProgram :=
  LawfulMonad.mk' StoreProgram bind_done (fun _ _ => rfl) bind_bind

end StoreProgram

namespace StoreM

variable {ε δ α β : Type}

/-- The program never writes. -/
def IsReadOnly (p : StoreM ε α) : Prop := StoreProgram.IsReadOnly p.run

theorem IsReadOnly.bind {p : StoreM ε α} {f : α → StoreM ε β} (hp : IsReadOnly p)
    (hf : ∀ a, IsReadOnly (f a)) : IsReadOnly (p >>= f) := by
  refine StoreProgram.IsReadOnly.bind hp fun r => ?_
  cases r with
  | error e => trivial
  | ok a => exact hf a

theorem isReadOnly_pure (a : α) : IsReadOnly (pure a : StoreM ε α) := trivial

theorem isReadOnly_throw (e : ε) : IsReadOnly (throw e : StoreM ε α) := trivial

theorem isReadOnly_ofExcept (r : Except ε α) : IsReadOnly (ofExcept r) := trivial

theorem isReadOnly_get (k : Kind) (ns name : String) : IsReadOnly (get k ns name) :=
  fun _ => trivial

theorem IsReadOnly.mapError {p : StoreM ε α} (f : ε → δ) (hp : IsReadOnly p) :
    IsReadOnly (p.mapError f) :=
  StoreProgram.IsReadOnly.bind hp fun _ => trivial

theorem bind_unit (p : StoreM ε Unit) : (do p; pure ()) = p := by
  refine ExceptT.ext ?_
  rw [ExceptT.run_bind]
  refine Eq.trans (congrArg _ (funext fun r => ?_)) (StoreProgram.bind_done p.run)
  rcases r with _ | ⟨⟩ <;> rfl

end StoreM

namespace MemoryStore

variable {s t : MemoryStore} {ε δ α β : Type}

theorem run_bind (s : MemoryStore) (p : StoreProgram α) (f : α → StoreProgram β) :
    s.run (p >>= f) = (s.run p).2.run (f (s.run p).1) := by
  induction p generalizing s with
  | done a => rfl
  | get k ns name next ih => exact ih _ _
  | create k o next ih => exact ih _ _
  | update k o next ih => exact ih _ _

/-- Runs a program that can fail. -/
def exec (s : MemoryStore) (p : StoreM ε α) : Except ε α × MemoryStore := s.run p.run

theorem exec_bind (s : MemoryStore) (p : StoreM ε α) (f : α → StoreM ε β) :
    s.exec (p >>= f) =
      match s.exec p with
      | (.ok a, t) => t.exec (f a)
      | (.error e, t) => (.error e, t) := by
  unfold exec
  rw [ExceptT.run_bind, run_bind]
  rcases s.run p.run with ⟨_ | _, t⟩ <;> rfl

@[simp] theorem exec_pure (s : MemoryStore) (a : α) :
    s.exec (pure a : StoreM ε α) = (.ok a, s) := rfl

@[simp] theorem exec_throw (s : MemoryStore) (e : ε) :
    s.exec (throw e : StoreM ε α) = (.error e, s) := rfl

@[simp] theorem exec_ofExcept (s : MemoryStore) (r : Except ε α) :
    s.exec (StoreM.ofExcept r) = (r, s) := rfl

@[simp] theorem exec_get (s : MemoryStore) (k : Kind) (ns name : String) :
    s.exec (StoreM.get k ns name) = s.get k ns name := rfl

@[simp] theorem exec_create (s : MemoryStore) (k : Kind) (o : k.Object) :
    s.exec (StoreM.create k o) = s.create k o := rfl

@[simp] theorem exec_update (s : MemoryStore) (k : Kind) (o : k.Object) :
    s.exec (StoreM.update k o) = s.update k o := rfl

@[simp] theorem exec_mapError (s : MemoryStore) (f : ε → δ) (p : StoreM ε α) :
    s.exec (p.mapError f) = ((s.exec p).1.mapError f, (s.exec p).2) := by
  have h : (p.mapError f).run = p.run >>= fun r => .done (r.mapError f) := rfl
  unfold exec
  rw [h, run_bind]
  rfl

theorem Reachable.run (p : StoreProgram α) (h : s.Reachable) : (s.run p).2.Reachable := by
  induction p generalizing s with
  | done a => exact h
  | get k ns name next ih => exact ih _ (h.get k ns name)
  | create k o next ih => exact ih _ (h.create k o)
  | update k o next ih => exact ih _ (h.update k o)

/-! ## What a run leaves alone -/

@[simp] theorem failing_get (k : Kind) (ns name : String) :
    (s.get k ns name).2.failing = s.failing := by
  unfold get
  dsimp only
  split_ifs <;> rfl

@[simp] theorem failing_create (k : Kind) (o : k.Object) :
    (s.create k o).2.failing = s.failing := by
  unfold create
  split
  · rfl
  · dsimp only
    split_ifs <;> rfl

@[simp] theorem failing_update (k : Kind) (o : k.Object) :
    (s.update k o).2.failing = s.failing := by
  unfold update
  split
  · rfl
  · dsimp only
    split_ifs
    · rfl
    · split
      · rfl
      · split <;> rfl

@[simp] theorem failing_run (p : StoreProgram α) : (s.run p).2.failing = s.failing := by
  induction p generalizing s with
  | done a => rfl
  | get k ns name next ih => exact (ih _).trans (failing_get k ns name)
  | create k o next ih => exact (ih _).trans (failing_create k o)
  | update k o next ih => exact (ih _).trans (failing_update k o)

/-- A program that only reads leaves nothing behind but the calls of its reads. -/
theorem run_of_isReadOnly {p : StoreProgram α} (hp : p.IsReadOnly) (s : MemoryStore) :
    ∃ calls, (∀ c ∈ calls, c.operation = .get) ∧
      (s.run p).2 = { s with calls := s.calls ++ calls } := by
  induction p generalizing s with
  | done a => exact ⟨[], by simp, by simp [run]⟩
  | get k ns name next ih =>
      have hget : (s.get k ns name).2 = s.record .get ⟨k, ns, name⟩ := by
        unfold get
        dsimp only
        split_ifs <;> rfl
      obtain ⟨calls, hcalls, hrun⟩ := ih _ (hp _) (s.get k ns name).2
      refine ⟨⟨.get, ⟨k, ns, name⟩⟩ :: calls, by simpa using hcalls, hrun.trans ?_⟩
      rw [hget]
      simp [record]
  | create k o next => exact hp.elim
  | update k o next => exact hp.elim

/-! ## Stores that differ in their calls only -/

theorem clearCalls_run_of_isReadOnly {p : StoreProgram α} (hp : p.IsReadOnly) (s : MemoryStore) :
    (s.run p).2.clearCalls = s.clearCalls := by
  obtain ⟨calls, -, hrun⟩ := run_of_isReadOnly hp s
  rw [hrun]
  rfl

theorem objects_eq_of_clearCalls_eq (h : s.clearCalls = t.clearCalls) : s.objects = t.objects := by
  simpa [clearCalls] using congrArg objects h

theorem lastVersion_eq_of_clearCalls_eq (h : s.clearCalls = t.clearCalls) :
    s.lastVersion = t.lastVersion := by
  simpa [clearCalls] using congrArg lastVersion h

theorem failing_eq_of_clearCalls_eq (h : s.clearCalls = t.clearCalls) : s.failing = t.failing := by
  simpa [clearCalls] using congrArg failing h

theorem get_congr (h : s.clearCalls = t.clearCalls) (k : Kind) (ns name : String) :
    (s.get k ns name).1 = (t.get k ns name).1 ∧
      (s.get k ns name).2.clearCalls = (t.get k ns name).2.clearCalls := by
  obtain ⟨objects, calls, failing, version⟩ := s
  obtain ⟨objects', calls', failing', version'⟩ := t
  simp only [clearCalls, mk.injEq, true_and] at h
  obtain ⟨rfl, rfl, rfl⟩ := h
  by_cases hfails : Operation.get ∈ failing <;> simp [get, record, peek, clearCalls, hfails]

theorem create_congr (h : s.clearCalls = t.clearCalls) (k : Kind) (o : k.Object) :
    (s.create k o).1 = (t.create k o).1 ∧
      (s.create k o).2.clearCalls = (t.create k o).2.clearCalls := by
  obtain ⟨objects, calls, failing, version⟩ := s
  obtain ⟨objects', calls', failing', version'⟩ := t
  simp only [clearCalls, mk.injEq, true_and] at h
  obtain ⟨rfl, rfl, rfl⟩ := h
  cases hkey : k.storeKey o with
  | error e => simp [create, hkey, clearCalls]
  | ok key =>
      by_cases hfails : Operation.create ∈ failing
      · simp [create, record, clearCalls, hkey, hfails]
      · cases hpresent : objects.contains key <;>
          simp [create, record, write, clearCalls, hkey, hfails, hpresent]

theorem update_congr (h : s.clearCalls = t.clearCalls) (k : Kind) (o : k.Object) :
    (s.update k o).1 = (t.update k o).1 ∧
      (s.update k o).2.clearCalls = (t.update k o).2.clearCalls := by
  obtain ⟨objects, calls, failing, version⟩ := s
  obtain ⟨objects', calls', failing', version'⟩ := t
  simp only [clearCalls, mk.injEq, true_and] at h
  obtain ⟨rfl, rfl, rfl⟩ := h
  cases hkey : k.storeKey o with
  | error e => simp [update, hkey, clearCalls]
  | ok key =>
      by_cases hfails : Operation.update ∈ failing
      · simp [update, record, clearCalls, hkey, hfails]
      · simp only [update, record, hkey, hfails, if_false]
        cases objects.get? key with
        | none => exact ⟨rfl, rfl⟩
        | some kept =>
            dsimp only
            split <;> exact ⟨rfl, rfl⟩

/-- Recorded calls have no influence on a run. -/
theorem run_congr (h : s.clearCalls = t.clearCalls) (p : StoreProgram α) :
    (s.run p).1 = (t.run p).1 ∧ (s.run p).2.clearCalls = (t.run p).2.clearCalls := by
  induction p generalizing s t with
  | done a => exact ⟨rfl, h⟩
  | get k ns name next ih =>
      obtain ⟨hanswer, hstore⟩ := get_congr h k ns name
      simp only [run]
      rw [hanswer]
      exact ih _ hstore
  | create k o next ih =>
      obtain ⟨hanswer, hstore⟩ := create_congr h k o
      simp only [run]
      rw [hanswer]
      exact ih _ hstore
  | update k o next ih =>
      obtain ⟨hanswer, hstore⟩ := update_congr h k o
      simp only [run]
      rw [hanswer]
      exact ih _ hstore

/-- What follows a read finds the store as the read found it. -/
theorem exec_bind_eq_ok {p : StoreM ε α} (hp : StoreM.IsReadOnly p) {f : α → StoreM ε β} {b : β} :
    (s.exec (p >>= f)).1 = .ok b ↔
      ∃ a, (s.exec p).1 = .ok a ∧ (s.exec (f a)).1 = .ok b := by
  have hclear : (s.exec p).2.clearCalls = s.clearCalls := clearCalls_run_of_isReadOnly hp s
  rw [exec_bind]
  rcases hexec : s.exec p with ⟨e | a, t⟩
  · simp
  · rw [hexec] at hclear
    have hsame : (t.exec (f a)).1 = (s.exec (f a)).1 := (run_congr hclear (f a).run).1
    simp [hsame]

/-! ## Contents -/

/-- The objects and the version number, without the calls and the failures. -/
def contents (s : MemoryStore) : MemoryStore :=
  { objects := s.objects, lastVersion := s.lastVersion }

/-- The store with other operations told to fail. -/
def refusing (s : MemoryStore) (ops : List Operation) : MemoryStore := { s with failing := ops }

@[simp] theorem contents_refusing (ops : List Operation) :
    (s.refusing ops).contents = s.contents := rfl

@[simp] theorem failing_refusing (ops : List Operation) : (s.refusing ops).failing = ops := rfl

@[simp] theorem contents_record (op : Operation) (key : StoreKey) :
    (s.record op key).contents = s.contents := rfl

@[simp] theorem contents_contents : s.contents.contents = s.contents := rfl

theorem contents_eq_iff :
    s.contents = t.contents ↔ s.objects = t.objects ∧ s.lastVersion = t.lastVersion := by
  simp [contents]

theorem contents_eq_of_clearCalls_eq (h : s.clearCalls = t.clearCalls) :
    s.contents = t.contents :=
  contents_eq_iff.2 ⟨objects_eq_of_clearCalls_eq h, lastVersion_eq_of_clearCalls_eq h⟩

theorem Sound.of_contents_eq (hs : s.Sound) (h : s.contents = t.contents) : t.Sound := by
  obtain ⟨hobjects, hversion⟩ := contents_eq_iff.1 h
  exact hs.of_objects_eq hobjects.symm hversion.le

theorem object?_of_contents_eq (h : s.contents = t.contents) (k : Kind) (ns name : String) :
    s.object? k ns name = t.object? k ns name := by
  rw [object?, object?, (contents_eq_iff.1 h).1]

/-- Stores that refuse nothing and have the same contents run alike. -/
theorem run_congr_contents (h : s.contents = t.contents) (hs : s.failing = [])
    (ht : t.failing = []) (p : StoreProgram α) :
    (s.run p).1 = (t.run p).1 ∧ (s.run p).2.contents = (t.run p).2.contents := by
  obtain ⟨hobjects, hversion⟩ := contents_eq_iff.1 h
  have hclear : s.clearCalls = t.clearCalls := by
    simp only [clearCalls, hobjects, hversion, hs, ht]
  obtain ⟨hresult, hstore⟩ := run_congr hclear p
  exact ⟨hresult, contents_eq_of_clearCalls_eq hstore⟩

end MemoryStore

end ApiPlatform
