import ApiPlatform.Proofs.Store.Running
/-!
# What a run writes and how it can end

The keys that a run writes, in order, and what it leaves alone (`MemoryStore.get?_run_of_notMem`).
How a program may end is read off its leaves, whatever the store answers.
-/

namespace ApiPlatform

namespace MemoryStore

variable {α β ε δ : Type} {s : MemoryStore}

/-- The key of a write that was not refused. -/
def writtenKey {k : Kind} (o : k.Object) (answer : Except StoreError k.Object) : List StoreKey :=
  match answer, k.storeKey o with
  | .ok _, .ok key => [key]
  | _, _ => []

/-- The keys that a program writes when it runs, in order. -/
def writes : StoreProgram α → MemoryStore → List StoreKey
  | .done _, _ => []
  | .get k ns name next, s =>
    let (answer, s) := s.get k ns name
    writes (next answer) s
  | .create k o next, s =>
    let (answer, s) := s.create k o
    writtenKey o answer ++ writes (next answer) s
  | .update k o next, s =>
    let (answer, s) := s.update k o
    writtenKey o answer ++ writes (next answer) s

theorem writes_bind (p : StoreProgram α) (f : α → StoreProgram β) (s : MemoryStore) :
    writes (p >>= f) s = writes p s ++ writes (f (s.run p).1) (s.run p).2 := by
  induction p generalizing s with
  | done a => rfl
  | get k ns name next ih => exact ih _ _
  | create k o next ih =>
      have hrest := ih (s.create k o).1 (s.create k o).2
      exact (congrArg (writtenKey o (s.create k o).1 ++ ·) hrest).trans
        (List.append_assoc _ _ _).symm
  | update k o next ih =>
      have hrest := ih (s.update k o).1 (s.update k o).2
      exact (congrArg (writtenKey o (s.update k o).1 ++ ·) hrest).trans
        (List.append_assoc _ _ _).symm

theorem writes_of_isReadOnly {p : StoreProgram α} (hp : p.IsReadOnly) (s : MemoryStore) :
    writes p s = [] := by
  induction p generalizing s with
  | done a => rfl
  | get k ns name next ih => exact ih _ (hp _) _
  | create k o next => exact hp.elim
  | update k o next => exact hp.elim

/-- The keys that a program that can fail writes. -/
def execWrites (s : MemoryStore) (p : StoreM ε α) : List StoreKey := writes p.run s

theorem execWrites_bind (p : StoreM ε α) (f : α → StoreM ε β) (s : MemoryStore) :
    s.execWrites (p >>= f) =
      s.execWrites p ++
        match s.exec p with
        | (.ok a, t) => t.execWrites (f a)
        | (.error _, _) => [] := by
  unfold execWrites exec
  rw [ExceptT.run_bind, writes_bind]
  rcases s.run p.run with ⟨_ | _, t⟩ <;> rfl

theorem execWrites_mapError (f : ε → δ) (p : StoreM ε α) (s : MemoryStore) :
    s.execWrites (p.mapError f) = s.execWrites p := by
  have h : (p.mapError f).run = p.run >>= fun r => .done (r.mapError f) := rfl
  unfold execWrites
  rw [h, writes_bind]
  exact List.append_nil _

@[simp] theorem execWrites_pure (a : α) (s : MemoryStore) :
    s.execWrites (pure a : StoreM ε α) = [] := rfl

theorem execWrites_update (k : Kind) (o : k.Object) (s : MemoryStore) :
    s.execWrites (StoreM.update k o) = writtenKey o (s.update k o).1 :=
  List.append_nil _

theorem execWrites_of_isReadOnly {p : StoreM ε α} (hp : StoreM.IsReadOnly p) (s : MemoryStore) :
    s.execWrites p = [] :=
  writes_of_isReadOnly hp s

/-! ## The frame -/

/-- What a write may do: it is refused and changes nothing, or it changes what stands under the key
of its object. -/
inductive Wrote {k : Kind} (o : k.Object) (s t : MemoryStore) :
    Except StoreError k.Object → Prop
  | refused (e : StoreError) : t.objects = s.objects → Wrote o s t (.error e)
  | accepted (live : k.Object) (key : StoreKey) : k.storeKey o = .ok key →
      (∀ key', key' ≠ key → t.objects.get? key' = s.objects.get? key') → Wrote o s t (.ok live)

theorem wrote_write {k : Kind} {o o' : k.Object} {key : StoreKey} (name : String) (version : Nat)
    (op : Operation) (hkey : k.storeKey o = .ok key) :
    Wrote o s ((s.record op key).write k key o') (readBack k name (written k o' version)) := by
  rw [written_eq, readBack_encode]
  exact .accepted _ key hkey fun key' hne => (get?_write key key' o').trans (if_neg hne)

theorem wrote_create (k : Kind) (o : k.Object) (s : MemoryStore) :
    Wrote o s (s.create k o).2 (s.create k o).1 := by
  unfold create
  cases hkey : k.storeKey o with
  | error e => exact .refused e rfl
  | ok key =>
      dsimp only
      split_ifs
      · exact .refused _ rfl
      · exact .refused _ rfl
      · exact wrote_write _ _ _ hkey

theorem wrote_update (k : Kind) (o : k.Object) (s : MemoryStore) :
    Wrote o s (s.update k o).2 (s.update k o).1 := by
  unfold update
  cases hkey : k.storeKey o with
  | error e => exact .refused e rfl
  | ok key =>
      dsimp only
      split_ifs
      · exact .refused _ rfl
      · split
        · exact .refused _ rfl
        · split
          · exact .refused _ rfl
          · exact wrote_write _ _ _ hkey

theorem Wrote.get?_of_notMem {k : Kind} {o : k.Object} {t : MemoryStore} {key : StoreKey}
    {answer : Except StoreError k.Object} (h : Wrote o s t answer)
    (hkey : key ∉ writtenKey o answer) : t.objects.get? key = s.objects.get? key := by
  cases h with
  | refused e hobjects => rw [hobjects]
  | accepted live key' hkey' hothers =>
      refine hothers key fun heq => hkey ?_
      simp only [writtenKey, hkey', heq, List.mem_singleton]

theorem objects_get (k : Kind) (ns name : String) (s : MemoryStore) :
    (s.get k ns name).2.objects = s.objects := by
  unfold get
  dsimp only
  split_ifs <;> rfl

/-- A run changes nothing under the keys that it does not write. -/
theorem get?_run_of_notMem {p : StoreProgram α} {key : StoreKey} (hkey : key ∉ writes p s) :
    (s.run p).2.objects.get? key = s.objects.get? key := by
  induction p generalizing s with
  | done a => rfl
  | get k ns name next ih => exact (ih _ hkey).trans (congrArg (·.get? key) (objects_get k ns name s))
  | create k o next ih =>
      have hnot := not_or.1 (mt List.mem_append.2 hkey)
      exact (ih _ hnot.2).trans ((wrote_create k o s).get?_of_notMem hnot.1)
  | update k o next ih =>
      have hnot := not_or.1 (mt List.mem_append.2 hkey)
      exact (ih _ hnot.2).trans ((wrote_update k o s).get?_of_notMem hnot.1)

end MemoryStore

/-! ## How a program can end -/

/-- Every end of a program is one that `P` holds of. -/
def StoreProgram.EndsIn {α : Type} (P : α → Prop) : StoreProgram α → Prop
  | .done a => P a
  | .get _ _ _ next => ∀ answer, EndsIn P (next answer)
  | .create _ _ next => ∀ answer, EndsIn P (next answer)
  | .update _ _ next => ∀ answer, EndsIn P (next answer)

namespace StoreProgram

variable {α β : Type} {P : α → Prop} {Q : β → Prop} {p : StoreProgram α}

theorem EndsIn.run (h : p.EndsIn P) (s : MemoryStore) : P (s.run p).1 := by
  induction p generalizing s with
  | done a => exact h
  | get k ns name next ih => exact ih _ (h _) _
  | create k o next ih => exact ih _ (h _) _
  | update k o next ih => exact ih _ (h _) _

theorem EndsIn.bind {f : α → StoreProgram β} (h : p.EndsIn P)
    (hf : ∀ a, P a → (f a).EndsIn Q) : (p >>= f).EndsIn Q := by
  induction p with
  | done a => exact hf a h
  | get k ns name next ih => exact fun answer => ih answer (h answer)
  | create k o next ih => exact fun answer => ih answer (h answer)
  | update k o next ih => exact fun answer => ih answer (h answer)

theorem endsIn_true (p : StoreProgram α) : p.EndsIn fun _ => True := by
  induction p with
  | done a => trivial
  | get k ns name next ih => exact ih
  | create k o next ih => exact ih
  | update k o next ih => exact ih

end StoreProgram

namespace StoreM

variable {ε δ α β : Type} {P : ε → Prop}

/-- Every error of a program is one that `P` holds of. -/
def FailsIn (P : ε → Prop) (p : StoreM ε α) : Prop :=
  StoreProgram.EndsIn (fun r => ∀ e, r = .error e → P e) p.run

theorem FailsIn.exec {p : StoreM ε α} (h : FailsIn P p) {s : MemoryStore} {e : ε}
    (he : (s.exec p).1 = .error e) : P e :=
  StoreProgram.EndsIn.run h s e he

theorem FailsIn.bind {p : StoreM ε α} {f : α → StoreM ε β} (h : FailsIn P p)
    (hf : ∀ a, FailsIn P (f a)) : FailsIn P (p >>= f) := by
  refine StoreProgram.EndsIn.bind h fun r hr => ?_
  cases r with
  | error e =>
      intro e' he'
      cases he'
      exact hr e rfl
  | ok a => exact hf a

theorem failsIn_pure (a : α) : FailsIn P (pure a : StoreM ε α) := by
  intro e he
  cases he

theorem failsIn_throw {e : ε} (he : P e) : FailsIn P (throw e : StoreM ε α) := by
  intro e' he'
  cases he'
  exact he

theorem failsIn_ofExcept {r : Except ε α} (hr : ∀ e, r = .error e → P e) :
    FailsIn P (ofExcept r) :=
  hr

theorem failsIn_mapError {f : ε → δ} {P : δ → Prop} (p : StoreM ε α) (hf : ∀ e, P (f e)) :
    FailsIn P (p.mapError f) := by
  refine StoreProgram.EndsIn.bind (StoreProgram.endsIn_true p.run) fun r _ => ?_
  intro e he
  cases r with
  | error e' =>
      cases he
      exact hf e'
  | ok a => cases he

end StoreM

end ApiPlatform
