import ApiPlatform.Proofs.Store.Running
/-!
# Interleaved store programs

A store answers one call at a time, so several programs that run at once are a schedule that says
whose call is next.  `MemoryStore.step` answers one call and `MemoryStore.interleave` follows a
schedule.  A program whose calls are bounded has ended once it was its turn that many times,
whatever the others did in between (`MemoryStore.interleave_eq_done`).
-/

namespace ApiPlatform

/-- Whatever it is answered, the program ends after a number of calls or before. -/
inductive StoreProgram.EndsWithin {α : Type} : Nat → StoreProgram α → Prop
  | done {n : Nat} (a : α) : EndsWithin n (.done a)
  | get {n : Nat} {k : Kind} {ns name : String}
      {next : Except StoreError (Option k.Object) → StoreProgram α} :
      (∀ answer, EndsWithin n (next answer)) → EndsWithin (n + 1) (.get k ns name next)
  | create {n : Nat} {k : Kind} {o : k.Object}
      {next : Except StoreError k.Object → StoreProgram α} :
      (∀ answer, EndsWithin n (next answer)) → EndsWithin (n + 1) (.create k o next)
  | update {n : Nat} {k : Kind} {o : k.Object}
      {next : Except StoreError k.Object → StoreProgram α} :
      (∀ answer, EndsWithin n (next answer)) → EndsWithin (n + 1) (.update k o next)

namespace MemoryStore

variable {α : Type} {n : Nat}

/-- Answers the next call of a program, if it has one. -/
def step (s : MemoryStore) : StoreProgram α → StoreProgram α × MemoryStore
  | .done a => (.done a, s)
  | .get k ns name next =>
    let (answer, s) := s.get k ns name
    (next answer, s)
  | .create k o next =>
    let (answer, s) := s.create k o
    (next answer, s)
  | .update k o next =>
    let (answer, s) := s.update k o
    (next answer, s)

/-- Answers calls of several programs in the order of a schedule. -/
def interleave : List (Fin n) → (Fin n → StoreProgram α) → MemoryStore →
    (Fin n → StoreProgram α) × MemoryStore
  | [], pool, s => (pool, s)
  | i :: schedule, pool, s =>
    let (p, s) := s.step (pool i)
    interleave schedule (Function.update pool i p) s

/-- A run is nothing but one step after the other. -/
theorem run_step (s : MemoryStore) (p : StoreProgram α) :
    (s.step p).2.run (s.step p).1 = s.run p := by
  cases p <;> rfl

variable {pool : Fin n → StoreProgram α} {s : MemoryStore}

@[simp] theorem failing_step (p : StoreProgram α) : (s.step p).2.failing = s.failing := by
  cases p with
  | done a => rfl
  | get k ns name next => exact failing_get k ns name
  | create k o next => exact failing_create k o
  | update k o next => exact failing_update k o

theorem Sound.step (hs : s.Sound) (p : StoreProgram α) : (s.step p).2.Sound := by
  cases p with
  | done a => exact hs
  | get k ns name next => exact hs.get k ns name
  | create k o next => exact hs.create k o
  | update k o next => exact hs.update k o

theorem interleave_append (before later : List (Fin n)) (pool : Fin n → StoreProgram α)
    (s : MemoryStore) :
    interleave (before ++ later) pool s =
      interleave later (interleave before pool s).1 (interleave before pool s).2 := by
  induction before generalizing pool s with
  | nil => rfl
  | cons i before ih => exact ih _ _

/-- A program that has ended stays as it is. -/
theorem interleave_done {i : Fin n} {a : α} (h : pool i = .done a) (schedule : List (Fin n)) :
    (interleave schedule pool s).1 i = .done a := by
  induction schedule generalizing pool s with
  | nil => exact h
  | cons j schedule ih =>
      refine ih ?_
      by_cases hij : i = j
      · subst hij
        rw [Function.update_self, h]
      · rw [Function.update_of_ne hij, h]

/-! ## Bounded programs -/

/-- An answer takes one call off. -/
theorem endsWithin_step {m : Nat} {p : StoreProgram α} (h : p.EndsWithin m) :
    (s.step p).1.EndsWithin (m - 1) := by
  cases h with
  | done a => exact .done a
  | get hnext => exact hnext _
  | create hnext => exact hnext _
  | update hnext => exact hnext _

theorem endsWithin_interleave {i : Fin n} {m : Nat} (h : (pool i).EndsWithin m)
    (schedule : List (Fin n)) :
    ((interleave schedule pool s).1 i).EndsWithin (m - schedule.count i) := by
  induction schedule generalizing pool s m with
  | nil => exact h
  | cons j schedule ih =>
      by_cases hij : j = i
      · subst hij
        rw [List.count_cons_self, Nat.add_comm, ← Nat.sub_sub]
        refine ih ?_
        rw [Function.update_self]
        exact endsWithin_step h
      · rw [List.count_cons_of_ne hij]
        refine ih ?_
        rwa [Function.update_of_ne (Ne.symm hij)]

theorem interleave_eq_done {i : Fin n} {m : Nat} {schedule : List (Fin n)}
    (h : (pool i).EndsWithin m) (hcount : m ≤ schedule.count i) :
    ∃ a, (interleave schedule pool s).1 i = .done a := by
  have hend := endsWithin_interleave (s := s) h schedule
  rw [Nat.sub_eq_zero_of_le hcount] at hend
  generalize (interleave schedule pool s).1 i = p at hend ⊢
  cases hend with
  | done a => exact ⟨a, rfl⟩

end MemoryStore

end ApiPlatform
