import ApiPlatform.Proofs.Store.Interleaving
import Mathlib.Data.List.Induction
/-!
# Histories of a store

A store answers one call at a time, so whatever its clients do together is one list of actions.  An
action either puts no object in, or one object in a version that was never given out before
(`MemoryStore.Sound.perform_of_accepts`).  Hence an update that names a version is accepted only if
nothing was put in under its key since that version was given out, and no other update that names
the same version is accepted later (`MemoryStore.Outdates.update_eq`).
-/

namespace ApiPlatform

/-- What is done to a store: a call, or a change of what it is told to do. -/
inductive StoreAction where
  | insert (k : Kind) (o : k.Object)
  | get (k : Kind) («namespace» name : String)
  | create (k : Kind) (o : k.Object)
  | update (k : Kind) (o : k.Object)
  | fail (op : Operation)
  | recover (op : Operation)
  | clearCalls

namespace MemoryStore

variable {s t : MemoryStore} {k : Kind} {o : k.Object} {key : StoreKey} {a : StoreAction}

/-- The store after an action. -/
def perform (s : MemoryStore) : StoreAction → MemoryStore
  | .insert k o => (s.insert k o).2
  | .get k ns name => (s.get k ns name).2
  | .create k o => (s.create k o).2
  | .update k o => (s.update k o).2
  | .fail op => s.fail op
  | .recover op => s.recover op
  | .clearCalls => s.clearCalls

/-- The store after some actions. -/
def performAll (history : List StoreAction) (s : MemoryStore) : MemoryStore :=
  history.foldl perform s

/-- The action is to put the object in, and it is not refused. -/
inductive Accepts (s : MemoryStore) {k : Kind} (o : k.Object) : StoreAction → Prop
  | insert : (s.insert k o).1 = .ok () → Accepts s o (.insert k o)
  | create {live : k.Object} : (s.create k o).1 = .ok live → Accepts s o (.create k o)
  | update {live : k.Object} : (s.update k o).1 = .ok live → Accepts s o (.update k o)

/-- The action puts an object in under the key. -/
def Puts (s : MemoryStore) (key : StoreKey) (a : StoreAction) : Prop :=
  ∃ (k : Kind) (o : k.Object), s.Accepts o a ∧ k.storeKey o = .ok key

@[simp] theorem performAll_nil : performAll [] s = s := rfl

@[simp] theorem performAll_cons (history : List StoreAction) :
    performAll (a :: history) s = performAll history (s.perform a) := rfl

@[simp] theorem performAll_append (before later : List StoreAction) :
    performAll (before ++ later) s = performAll later (performAll before s) :=
  List.foldl_append

theorem Reachable.perform (h : s.Reachable) (a : StoreAction) : (s.perform a).Reachable := by
  cases a with
  | insert k o => exact h.insert k o
  | get k ns name => exact h.get k ns name
  | create k o => exact h.create k o
  | update k o => exact h.update k o
  | fail op => exact h.fail op
  | recover op => exact h.recover op
  | clearCalls => exact h.clearCalls

theorem Reachable.performAll (h : s.Reachable) (history : List StoreAction) :
    (performAll history s).Reachable := by
  induction history generalizing s with
  | nil => exact h
  | cons a history ih => exact ih (h.perform a)

/-- The reachable stores are those with a history. -/
theorem reachable_iff : s.Reachable ↔ ∃ history, s = MemoryStore.performAll history {} := by
  constructor
  · intro h
    have hlater : ∀ (t : MemoryStore) (a : StoreAction),
        (∃ history, t = MemoryStore.performAll history {}) →
          ∃ history, t.perform a = MemoryStore.performAll history {} := by
      rintro t a ⟨history, rfl⟩
      exact ⟨history ++ [a], (performAll_append history [a]).symm⟩
    induction h with
    | empty => exact ⟨[], rfl⟩
    | insert k o _ ih => exact hlater _ (.insert k o) ih
    | get k ns name _ ih => exact hlater _ (.get k ns name) ih
    | create k o _ ih => exact hlater _ (.create k o) ih
    | update k o _ ih => exact hlater _ (.update k o) ih
    | fail op _ ih => exact hlater _ (.fail op) ih
    | recover op _ ih => exact hlater _ (.recover op) ih
    | clearCalls _ ih => exact hlater _ .clearCalls ih
  · rintro ⟨history, rfl⟩
    exact Reachable.empty.performAll history

/-- What the programs of several clients do to a store is a history, in whatever order their calls
are answered. -/
theorem exists_performAll_eq_interleave {α : Type} {n : Nat} (schedule : List (Fin n))
    (pool : Fin n → StoreProgram α) (s : MemoryStore) :
    ∃ history, (interleave schedule pool s).2 = performAll history s := by
  induction schedule generalizing pool s with
  | nil => exact ⟨[], rfl⟩
  | cons i schedule ih =>
      obtain ⟨history, hrest⟩ :=
        ih (Function.update pool i (s.step (pool i)).1) (s.step (pool i)).2
      have hstep : ∃ actions, (s.step (pool i)).2 = performAll actions s := by
        cases pool i with
        | done a => exact ⟨[], rfl⟩
        | get k ns name next => exact ⟨[.get k ns name], rfl⟩
        | create k o next => exact ⟨[.create k o], rfl⟩
        | update k o next => exact ⟨[.update k o], rfl⟩
      obtain ⟨actions, hactions⟩ := hstep
      refine ⟨actions ++ history, ?_⟩
      rw [performAll_append, ← hactions]
      exact hrest

/-! ## What one action does -/

/-- The object with another identifier. -/
def withUid (k : Kind) (o : k.Object) (uid : Option String) : k.Object :=
  k.withMetadata o { k.metadata o with uid }

@[simp] theorem withUid_self (k : Kind) (o : k.Object) : withUid k o (k.metadata o).uid = o :=
  k.withMetadata_metadata o

@[simp] theorem objects_write_record (op : Operation) (key key' : StoreKey) (o : k.Object) :
    ((s.record op key').write k key o).objects = (s.write k key o).objects := rfl

theorem storeKey_withUid {uid : Option String} (hkey : k.storeKey o = .ok key) :
    k.storeKey (withUid k o uid) = .ok key :=
  Kind.storeKey_congr (by simp [withUid]) (by simp [withUid, ObjectMeta.anyName]) hkey

namespace Sound

theorem perform (hs : s.Sound) (a : StoreAction) : (s.perform a).Sound := by
  cases a with
  | insert k o => exact hs.insert k o
  | get k ns name => exact hs.get k ns name
  | create k o => exact hs.create k o
  | update k o => exact hs.update k o
  | fail op => exact hs.of_objects_eq rfl le_rfl
  | recover op => exact hs.of_objects_eq rfl le_rfl
  | clearCalls => exact hs.of_objects_eq rfl le_rfl

theorem performAll (hs : s.Sound) (history : List StoreAction) :
    (MemoryStore.performAll history s).Sound := by
  induction history generalizing s with
  | nil => exact hs
  | cons a history ih => exact ih (hs.perform a)

/-- The answers of an update: it is refused and writes nothing, or it writes the object with the
identifier of the one that it replaces, whose version it names if it names one. -/
theorem update_cases (hs : s.Sound) (hkey : k.storeKey o = .ok key) :
    (∃ e, s.update k o = (.error e, s.record .update key)) ∨
      ∃ live, s.object? k key.namespace key.name = some live ∧
        ((k.metadata o).resourceVersion = none ∨
          (k.metadata o).resourceVersion = (k.metadata live).resourceVersion) ∧
        s.update k o =
          (.ok (keptObject k (withUid k o (k.metadata live).uid) (s.lastVersion + 1)),
            (s.record .update key).write k key (withUid k o (k.metadata live).uid)) := by
  rw [hs.update_eq hkey]
  split_ifs with hfails
  · exact .inl ⟨_, rfl⟩
  · cases hlive : s.object? k key.namespace key.name with
    | none => exact .inl ⟨_, rfl⟩
    | some live =>
        obtain ⟨v, -, -, hversion⟩ := (hs.keeps hlive).version
        cases hnamed : (k.metadata o).resourceVersion with
        | none => exact .inr ⟨live, rfl, .inl rfl, by simp [withUid]⟩
        | some version =>
            have hversion : (k.metadata live).resourceVersion = some (versionText v) := hversion
            by_cases hcurrent : version = versionText v
            · refine .inr ⟨live, rfl, .inr (by rw [hversion, hcurrent]), ?_⟩
              simp [hversion, hcurrent, withUid, Option.filter]
            · refine .inl ⟨.conflict key version, ?_⟩
              simp [hversion, hcurrent, Option.filter]

/-- An action that puts an object in writes it under its key, in the next version. -/
theorem perform_of_accepts (hs : s.Sound) (h : s.Accepts o a) :
    ∃ key uid, k.storeKey o = .ok key ∧
      (s.perform a).objects = (s.write k key (withUid k o uid)).objects ∧
      (s.perform a).lastVersion = s.lastVersion + 1 := by
  cases h with
  | insert haccepted =>
      simp only [MemoryStore.perform]
      cases hkey : k.storeKey o with
      | error e => simp [MemoryStore.insert, hkey] at haccepted
      | ok key =>
          refine ⟨key, (k.metadata o).uid, rfl, ?_, ?_⟩
          · simp [MemoryStore.insert, hkey]
          · simp [MemoryStore.insert, hkey]
  | create haccepted =>
      simp only [MemoryStore.perform]
      cases hkey : k.storeKey o with
      | error e => simp [MemoryStore.create, hkey] at haccepted
      | ok key =>
          rw [hs.create_eq hkey] at haccepted ⊢
          split_ifs at haccepted ⊢
          refine ⟨key, (k.metadata o).uid, rfl, ?_, rfl⟩
          simp
  | update haccepted =>
      simp only [MemoryStore.perform]
      cases hkey : k.storeKey o with
      | error e => simp [MemoryStore.update, hkey] at haccepted
      | ok key =>
          obtain ⟨e, hrefused⟩ | ⟨live, -, -, hupdate⟩ := hs.update_cases hkey
          · simp [hrefused] at haccepted
          · refine ⟨key, (k.metadata live).uid, rfl, ?_, ?_⟩
            · simp [hupdate]
            · simp [hupdate]

/-- An action that puts nothing in leaves the objects as they are. -/
theorem perform_of_not_accepts (hs : s.Sound) (h : ∀ (k : Kind) (o : k.Object), ¬s.Accepts o a) :
    (s.perform a).objects = s.objects ∧ s.lastVersion ≤ (s.perform a).lastVersion := by
  cases a with
  | insert k o =>
      simp only [MemoryStore.perform]
      cases hkey : k.storeKey o with
      | error e => simp [MemoryStore.insert, hkey, advance]
      | ok key => exact absurd (.insert (by simp [MemoryStore.insert, hkey])) (h k o)
  | get k ns name =>
      simp only [MemoryStore.perform]
      rw [hs.get_eq]
      exact ⟨rfl, le_rfl⟩
  | create k o =>
      simp only [MemoryStore.perform]
      cases hkey : k.storeKey o with
      | error e => simp [MemoryStore.create, hkey]
      | ok key =>
          have hrefused : ∀ live, (s.create k o).1 ≠ .ok live := fun live hlive =>
            h k o (.create hlive)
          rw [hs.create_eq hkey] at hrefused ⊢
          split_ifs at hrefused ⊢
          · exact ⟨rfl, le_rfl⟩
          · exact ⟨rfl, le_rfl⟩
          · exact absurd rfl (hrefused _)
  | update k o =>
      simp only [MemoryStore.perform]
      cases hkey : k.storeKey o with
      | error e => simp [MemoryStore.update, hkey]
      | ok key =>
          obtain ⟨e, hrefused⟩ | ⟨live, -, -, hupdate⟩ := hs.update_cases hkey
          · simp [hrefused]
          · exact absurd (.update (congrArg Prod.fst hupdate)) (h k o)
  | fail op => exact ⟨rfl, le_rfl⟩
  | recover op => exact ⟨rfl, le_rfl⟩
  | clearCalls => exact ⟨rfl, le_rfl⟩

theorem get?_perform_of_not_puts (hs : s.Sound) (h : ¬s.Puts key a) :
    (s.perform a).objects.get? key = s.objects.get? key := by
  by_cases haccepts : ∃ (k : Kind) (o : k.Object), s.Accepts o a
  · obtain ⟨k, o, haccepts⟩ := haccepts
    obtain ⟨key', uid, hkey', hobjects, -⟩ := hs.perform_of_accepts haccepts
    have hne : key ≠ key' := fun heq => h ⟨k, o, haccepts, heq ▸ hkey'⟩
    rw [hobjects, get?_write, if_neg hne]
  · push Not at haccepts
    rw [(hs.perform_of_not_accepts haccepts).1]

/-- What stands under a key into which an action puts an object. -/
theorem object?_perform_of_puts (hs : s.Sound) (h : s.Puts key a) :
    (∃ live : key.kind.Object,
      (s.perform a).object? key.kind key.namespace key.name = some live ∧
        (key.kind.metadata live).resourceVersion = some (versionText (s.lastVersion + 1))) ∧
      (s.perform a).lastVersion = s.lastVersion + 1 := by
  obtain ⟨k, o, haccepts, hkey⟩ := h
  obtain ⟨key', uid, hkey', hobjects, hversion⟩ := hs.perform_of_accepts haccepts
  obtain rfl : key = key' := Except.ok.inj (hkey.symm.trans hkey')
  obtain ⟨rfl, -, -⟩ := Kind.storeKey_eq_ok.1 hkey
  refine ⟨⟨keptObject key.kind (withUid key.kind o uid) (s.lastVersion + 1), ?_, by simp⟩, hversion⟩
  rw [object?, hobjects]
  exact object?_write_self (storeKey_withUid hkey)

theorem lastVersion_le_perform (hs : s.Sound) (a : StoreAction) :
    s.lastVersion ≤ (s.perform a).lastVersion := by
  by_cases haccepts : ∃ (k : Kind) (o : k.Object), s.Accepts o a
  · obtain ⟨k, o, haccepts⟩ := haccepts
    obtain ⟨-, -, -, -, hversion⟩ := hs.perform_of_accepts haccepts
    exact hversion ▸ Nat.le_succ _
  · push Not at haccepts
    exact (hs.perform_of_not_accepts haccepts).2

theorem lastVersion_le_performAll (hs : s.Sound) (history : List StoreAction) :
    s.lastVersion ≤ (MemoryStore.performAll history s).lastVersion := by
  induction history generalizing s with
  | nil => exact le_rfl
  | cons a history ih => exact (hs.lastVersion_le_perform a).trans (ih (hs.perform a))

end Sound

/-! ## The action that gave a version out -/

/-- The action of a history that comes after some others puts an object in under the key, where it
is kept as `live`. -/
def PutAt (history before : List StoreAction) (key : StoreKey) (live : key.kind.Object) : Prop :=
  ∃ a later, history = before ++ a :: later ∧ (performAll before {}).Puts key a ∧
    (performAll (before ++ [a]) {}).object? key.kind key.namespace key.name = some live

theorem sound_performAll (history : List StoreAction) : (performAll history {}).Sound :=
  sound_empty.performAll history

variable {history before before' : List StoreAction} {key' : StoreKey} {live : key.kind.Object}
  {live' : key'.kind.Object}

theorem PutAt.resourceVersion_eq (h : PutAt history before key live) :
    (key.kind.metadata live).resourceVersion =
      some (versionText ((performAll before {}).lastVersion + 1)) := by
  obtain ⟨a, later, -, hputs, hlive⟩ := h
  obtain ⟨⟨put, hput, hversion⟩, -⟩ := (sound_performAll before).object?_perform_of_puts hputs
  rw [performAll_append, performAll_cons, performAll_nil, hput] at hlive
  rwa [← Option.some.inj hlive]

theorem lastVersion_lt_of_puts (hputs : (performAll before {}).Puts key a)
    (hstart : before ++ [a] <+: before') :
    (performAll before {}).lastVersion < (performAll before' {}).lastVersion := by
  obtain ⟨rest, rfl⟩ := hstart
  have hsound := sound_performAll before
  have hnext := (hsound.object?_perform_of_puts hputs).2
  have hrest := (hsound.perform a).lastVersion_le_performAll rest
  simp only [performAll_append, performAll_cons, performAll_nil]
  omega

/-- No two actions give out the same version. -/
theorem PutAt.eq_of_resourceVersion_eq (h : PutAt history before key live)
    (h' : PutAt history before' key' live')
    (hsame : (key.kind.metadata live).resourceVersion =
      (key'.kind.metadata live').resourceVersion) : before = before' := by
  rw [h.resourceVersion_eq, h'.resourceVersion_eq, Option.some_inj] at hsame
  have hequal : (performAll before {}).lastVersion = (performAll before' {}).lastVersion :=
    Nat.succ.inj (versionText_injective hsame)
  obtain ⟨a, later, hsplit, hputs, -⟩ := h
  obtain ⟨a', later', hsplit', hputs', -⟩ := h'
  have hstart : before ++ [a] <+: history := ⟨later, by simp [hsplit]⟩
  have hstart' : before' ++ [a'] <+: history := ⟨later', by simp [hsplit']⟩
  obtain hlonger | hshorter := List.prefix_or_prefix_of_prefix hstart hstart'
  · rcases List.prefix_concat_iff.1 hlonger with heq | hlt
    · exact (List.append_inj' heq rfl).1
    · exact absurd hequal (lastVersion_lt_of_puts hputs hlt).ne
  · rcases List.prefix_concat_iff.1 hshorter with heq | hlt
    · exact (List.append_inj' heq rfl).1.symm
    · exact absurd hequal (lastVersion_lt_of_puts hputs' hlt).ne'

theorem PutAt.snoc (h : PutAt history before key live) (a : StoreAction) :
    PutAt (history ++ [a]) before key live := by
  obtain ⟨b, later, hsplit, hput⟩ := h
  exact ⟨b, later ++ [a], by simp [hsplit], hput⟩

theorem PutAt.of_snoc (h : PutAt (history ++ [a]) before key live) :
    (before = history ∧ (performAll history {}).Puts key a) ∨ PutAt history before key live := by
  obtain ⟨b, later, hsplit, hputs, hlive⟩ := h
  rcases List.eq_nil_or_concat later with rfl | ⟨later, c, rfl⟩
  · obtain ⟨rfl, heq⟩ := List.append_inj' hsplit rfl
    rw [List.singleton_inj] at heq
    exact .inl ⟨rfl, heq ▸ hputs⟩
  · rw [List.concat_eq_append, ← List.cons_append, ← List.append_assoc] at hsplit
    exact .inr ⟨b, later, (List.append_inj' hsplit rfl).1, hputs, hlive⟩

theorem PutAt.isPrefix (h : PutAt history before key live) : before <+: history := by
  obtain ⟨a, later, hsplit, -⟩ := h
  exact ⟨a :: later, hsplit.symm⟩

/-- What stands under a key was put in by one action, and nothing by any after it. -/
theorem exists_putAt (history : List StoreAction)
    (hlive : (performAll history {}).object? key.kind key.namespace key.name = some live) :
    ∃ before, PutAt history before key live ∧
      ∀ before' other, PutAt history before' key other → before' <+: before := by
  induction history using List.reverseRecOn with
  | nil => cases hlive
  | append_singleton history a ih =>
      have hsound := sound_performAll history
      by_cases hputs : (performAll history {}).Puts key a
      · refine ⟨history, ⟨a, [], rfl, hputs, hlive⟩, fun before' other h => ?_⟩
        rcases h.of_snoc with ⟨rfl, -⟩ | h
        · exact List.prefix_rfl
        · exact h.isPrefix
      · have hkept : (performAll history {}).object? key.kind key.namespace key.name =
            some live := by
          rw [← hlive, performAll_append, performAll_cons, performAll_nil, object?, object?,
            hsound.get?_perform_of_not_puts hputs]
        obtain ⟨before, hput, hlast⟩ := ih hkept
        refine ⟨before, hput.snoc a, fun before' other h => ?_⟩
        rcases h.of_snoc with ⟨-, h⟩ | h
        · exact absurd h hputs
        · exact hlast before' other h

/-! ## Updates that name a version -/

/-- Under the key stands an object in a later version. -/
def Outdates (s : MemoryStore) (key : StoreKey) (version : String) : Prop :=
  ∃ (live : key.kind.Object) (v w : Nat),
    s.object? key.kind key.namespace key.name = some live ∧ version = versionText v ∧ v < w ∧
      (key.kind.metadata live).resourceVersion = some (versionText w)

/-- The action puts nothing in under the key, unless by an update that names the version. -/
def StaysOff (key : StoreKey) (version : String) : StoreAction → Prop
  | .insert k o => k.storeKey o ≠ .ok key
  | .update k o => k.storeKey o = .ok key → (k.metadata o).resourceVersion = some version
  | _ => True

theorem Outdates.perform {version : String} (hs : s.Sound) (h : s.Outdates key version)
    (a : StoreAction) : (s.perform a).Outdates key version := by
  obtain ⟨live, v, w, hlive, hversion, hlt, hkept⟩ := h
  by_cases hputs : s.Puts key a
  · obtain ⟨⟨put, hput, hnew⟩, -⟩ := hs.object?_perform_of_puts hputs
    obtain ⟨w', -, hbound, hkept'⟩ := (hs.keeps hlive).version
    have hsame : w = w' := versionText_injective (Option.some.inj (hkept.symm.trans hkept'))
    exact ⟨put, v, s.lastVersion + 1, hput, hversion, by omega, hnew⟩
  · refine ⟨live, v, w, ?_, hversion, hlt, hkept⟩
    rw [← hlive, object?, object?, hs.get?_perform_of_not_puts hputs]

theorem Outdates.performAll {version : String} (hs : s.Sound) (h : s.Outdates key version)
    (history : List StoreAction) : (performAll history s).Outdates key version := by
  induction history generalizing s with
  | nil => exact h
  | cons a history ih => exact ih (hs.perform a) (h.perform hs a)

/-- An update that names an earlier version is refused. -/
theorem Outdates.update_eq {version : String} (hs : s.Sound) (h : s.Outdates key version)
    (hkey : k.storeKey o = .ok key) (hnamed : (k.metadata o).resourceVersion = some version) :
    s.update k o =
      (.error (if .update ∈ s.failing then .injected .update else .conflict key version),
        s.record .update key) := by
  obtain ⟨rfl, -, -⟩ := Kind.storeKey_eq_ok.1 hkey
  obtain ⟨live, v, w, hlive, rfl, hlt, hkept⟩ := h
  have hstale : versionText v ≠ versionText w := fun heq => hlt.ne (versionText_injective heq)
  rw [hs.update_eq hkey, hlive]
  split_ifs with hfails
  · rfl
  · simp [hnamed, hkept, hstale, Option.filter]

theorem Outdates.not_puts {version : String} (hs : s.Sound) (h : s.Outdates key version)
    (ha : StaysOff key version a) : ¬s.Puts key a := by
  rintro ⟨k, o, haccepts, hkey⟩
  cases haccepts with
  | insert => exact ha hkey
  | create hcreated =>
      obtain ⟨rfl, -, -⟩ := Kind.storeKey_eq_ok.1 hkey
      obtain ⟨live, -, -, hlive, -⟩ := h
      rw [hs.create_eq hkey, hlive] at hcreated
      split_ifs at hcreated with hfails htaken
      exact htaken rfl
  | update hupdated =>
      rw [h.update_eq hs hkey (ha hkey)] at hupdated
      simp at hupdated

/-- Actions that stay off the key leave what stands under it in place. -/
theorem Outdates.object?_performAll {version : String} (hs : s.Sound)
    (h : s.Outdates key version) {history : List StoreAction}
    (hoff : ∀ a ∈ history, StaysOff key version a) :
    (MemoryStore.performAll history s).object? key.kind key.namespace key.name =
      s.object? key.kind key.namespace key.name := by
  induction history generalizing s with
  | nil => rfl
  | cons a history ih =>
      have hrest : ∀ b ∈ history, StaysOff key version b :=
        fun b hb => hoff b (List.mem_cons_of_mem a hb)
      have hnot : ¬s.Puts key a := h.not_puts hs (hoff a List.mem_cons_self)
      rw [performAll_cons, ih (hs.perform a) (h.perform hs a) hrest, object?, object?,
        hs.get?_perform_of_not_puts hnot]

/-- The object that an accepted update replaces is in the version that the update names, if it names
one, and the next version takes its place. -/
theorem Sound.of_update_eq_ok (hs : s.Sound) {live : k.Object} {version : String}
    (hupdated : (s.update k o).1 = .ok live)
    (hnamed : (k.metadata o).resourceVersion = some version) :
    ∃ ns read, k.storeKey o = .ok ⟨k, ns, k.objectName o⟩ ∧
      s.object? k ns (k.objectName o) = some read ∧
      (k.metadata read).resourceVersion = some version ∧
      (s.update k o).2.object? k ns (k.objectName o) = some live ∧
      (s.update k o).2.Outdates ⟨k, ns, k.objectName o⟩ version := by
  cases hkey : k.storeKey o with
  | error e => simp [MemoryStore.update, hkey] at hupdated
  | ok key =>
      obtain ⟨ns, -, rfl⟩ := Kind.storeKey_cases hkey
      obtain ⟨e, hrefused⟩ | ⟨read, hread, hcurrent, hupdate⟩ := hs.update_cases hkey
      · simp [hrefused] at hupdated
      · obtain ⟨v, -, hbound, hkept⟩ := (hs.keeps hread).version
        have hcurrent : (k.metadata read).resourceVersion = some version := by
          rw [hnamed] at hcurrent
          exact (hcurrent.resolve_left (Option.some_ne_none _)).symm
        have hlive : (s.update k o).2.object? k ns (k.objectName o) = some live := by
          rw [hupdate] at hupdated ⊢
          rw [object?, objects_write_record, ← Except.ok.inj hupdated]
          exact object?_write_self (storeKey_withUid hkey)
        refine ⟨ns, read, rfl, hread, hcurrent, hlive, live, v, s.lastVersion + 1, hlive, ?_,
          Nat.lt_succ_of_le hbound, ?_⟩
        · exact Option.some.inj (hcurrent.symm.trans hkept)
        · rw [hupdate] at hupdated
          simp [← Except.ok.inj hupdated]

/-- An update that names a version is accepted only if the object in its place is the one that the
version was given out for, and no other one was put in there since.  Of the updates that name the
version it is the only one: a later one is refused, and the accepted object stays in place while
nothing but such updates is tried. -/
theorem update_exclusive (history : List StoreAction) {k : Kind} {o live : k.Object}
    {version : String} (hupdated : ((performAll history {}).update k o).1 = .ok live)
    (hnamed : (k.metadata o).resourceVersion = some version) :
    ∃ ns read before,
      k.storeKey o = .ok ⟨k, ns, k.objectName o⟩ ∧
      (performAll history {}).object? k ns (k.objectName o) = some read ∧
      (k.metadata read).resourceVersion = some version ∧
      PutAt history before ⟨k, ns, k.objectName o⟩ read ∧
      (∀ before' key' live', PutAt history before' key' live' →
        (key'.kind.metadata live').resourceVersion = some version → before' = before) ∧
      (∀ before' other, PutAt history before' ⟨k, ns, k.objectName o⟩ other → before' <+: before) ∧
      (∀ later o', k.storeKey o' = .ok ⟨k, ns, k.objectName o⟩ →
        (k.metadata o').resourceVersion = some version →
        let s := performAll later ((performAll history {}).update k o).2
        s.update k o' =
          (.error (if .update ∈ s.failing then .injected .update
            else .conflict ⟨k, ns, k.objectName o⟩ version),
            s.record .update ⟨k, ns, k.objectName o⟩)) ∧
      ∀ later, (∀ a ∈ later, StaysOff ⟨k, ns, k.objectName o⟩ version a) →
        (performAll later ((performAll history {}).update k o).2).object? k ns (k.objectName o) =
          some live := by
  have hs := sound_performAll history
  obtain ⟨ns, read, hkey, hread, hversion, hlive, houtdates⟩ := hs.of_update_eq_ok hupdated hnamed
  obtain ⟨before, hput, hlast⟩ := @exists_putAt ⟨k, ns, k.objectName o⟩ read history hread
  have hnext : ((performAll history {}).update k o).2.Sound := hs.update k o
  refine ⟨ns, read, before, hkey, hread, hversion, hput, ?_, hlast, ?_, ?_⟩
  · intro before' key' live' hput' hversion'
    exact hput'.eq_of_resourceVersion_eq hput (hversion'.trans hversion.symm)
  · intro later o' hkey' hnamed'
    exact (houtdates.performAll hnext later).update_eq (hnext.performAll later) hkey' hnamed'
  · intro later hoff
    exact (houtdates.object?_performAll hnext hoff).trans hlive

/-- A setting as it is written back by who has read its first version. -/
def edited (author : String) : ConfigMap :=
  { metadata :=
      { name := some "shared", «namespace» := some "apis", resourceVersion := some "1"
        uid := some "memory-1" }
    data := some (.ofList [("author", author)]) }

theorem update_edited :
    ((performAll [.create .configMap (edited "nobody")] {}).update .configMap (edited "ann")).1 =
      .ok (keptObject .configMap (edited "ann") 2) :=
  rfl

theorem edited_exclusive :
    (((performAll [.create .configMap (edited "nobody")] {}).update .configMap
      (edited "ann")).2.update .configMap (edited "ben")).1 =
        .error (.conflict ⟨.configMap, "apis", "shared"⟩ "1") := by
  obtain ⟨ns, read, before, hkey, -, -, -, -, -, hrefused, -⟩ :=
    update_exclusive [.create .configMap (edited "nobody")] update_edited rfl
  obtain ⟨-, hns, -⟩ := Kind.storeKey_eq_ok.1 hkey
  obtain rfl : ns = "apis" := Option.some.inj hns.symm
  exact congrArg Prod.fst (hrefused [] (edited "ben") rfl rfl)

end MemoryStore

end ApiPlatform
