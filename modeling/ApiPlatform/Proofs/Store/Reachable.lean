import ApiPlatform.Proofs.Store.Kept
/-!
# Reachable stores

The stores that operations make of an empty one.  All of them are sound, so their objects can be
looked at in their own types (`MemoryStore.object?`), and each operation is described by what it
does to that view.
-/

namespace ApiPlatform.MemoryStore

variable {s : MemoryStore} {k : Kind} {ns name : String}

/-- The stores that operations make of an empty one. -/
inductive Reachable : MemoryStore → Prop
  | empty : Reachable {}
  | insert {s : MemoryStore} (k : Kind) (o : k.Object) :
      Reachable s → Reachable (s.insert k o).2
  | get {s : MemoryStore} (k : Kind) (ns name : String) :
      Reachable s → Reachable (s.get k ns name).2
  | create {s : MemoryStore} (k : Kind) (o : k.Object) :
      Reachable s → Reachable (s.create k o).2
  | update {s : MemoryStore} (k : Kind) (o : k.Object) :
      Reachable s → Reachable (s.update k o).2
  | fail {s : MemoryStore} (op : Operation) : Reachable s → Reachable (s.fail op)
  | recover {s : MemoryStore} (op : Operation) : Reachable s → Reachable (s.recover op)
  | clearCalls {s : MemoryStore} : Reachable s → Reachable s.clearCalls

/-- The object under a key, as an object of its kind. -/
def object? (s : MemoryStore) (k : Kind) (ns name : String) : Option k.Object :=
  (s.objects.get? ⟨k, ns, name⟩).bind k.codec.decode

@[simp] theorem object?_record (op : Operation) (key : StoreKey) :
    (s.record op key).object? k ns name = s.object? k ns name := rfl

theorem object?_write_self {key : StoreKey} {o : k.Object} (hkey : k.storeKey o = .ok key) :
    (s.write k key o).object? k key.namespace key.name =
      some (keptObject k o (s.lastVersion + 1)) := by
  obtain ⟨rfl, -, -⟩ := Kind.storeKey_eq_ok.1 hkey
  rw [object?, get?_write, if_pos rfl, Option.bind_some, Codec.decode_encode]

theorem object?_write_of_ne {k' : Kind} {key : StoreKey} {o : k.Object}
    (hne : (⟨k', ns, name⟩ : StoreKey) ≠ key) :
    (s.write k key o).object? k' ns name = s.object? k' ns name := by
  rw [object?, get?_write, if_neg hne, object?]

namespace Sound

theorem get?_eq (hs : s.Sound) (k : Kind) (ns name : String) :
    s.objects.get? ⟨k, ns, name⟩ = (s.object? k ns name).map k.codec.encode := by
  cases h : s.objects.get? ⟨k, ns, name⟩ with
  | none => simp [object?, h]
  | some j =>
      obtain ⟨live, -, rfl⟩ := hs _ _ h
      simp [object?, h, Codec.decode_encode]

theorem peek_eq (hs : s.Sound) (k : Kind) (ns name : String) :
    s.peek k ns name = .ok (s.object? k ns name) := by
  rw [peek, hs.get?_eq]
  cases s.object? k ns name <;> simp [Except.map]

theorem keeps (hs : s.Sound) {live : k.Object} (h : s.object? k ns name = some live) :
    Keeps s.lastVersion ⟨k, ns, name⟩ live := by
  obtain ⟨live', hlive, hj⟩ := hs ⟨k, ns, name⟩ (k.codec.encode live)
    (by rw [hs.get?_eq, h, Option.map_some])
  have hsame := congrArg k.codec.decode hj
  rw [Codec.decode_encode, Codec.decode_encode, Option.some_inj] at hsame
  exact hsame ▸ hlive

theorem get_eq (hs : s.Sound) (k : Kind) (ns name : String) :
    s.get k ns name =
      (if .get ∈ s.failing then .error (.injected .get) else .ok (s.object? k ns name),
        s.record .get ⟨k, ns, name⟩) := by
  have hpeek : (s.record .get ⟨k, ns, name⟩).peek k ns name = .ok (s.object? k ns name) :=
    hs.peek_eq k ns name
  simp only [MemoryStore.get, hpeek, failing_record]
  split_ifs <;> rfl

theorem create_eq (hs : s.Sound) {o : k.Object} {key : StoreKey}
    (hkey : k.storeKey o = .ok key) :
    s.create k o =
      if .create ∈ s.failing then (.error (.injected .create), s.record .create key)
      else if (s.object? k key.namespace key.name).isSome then
        (.error (.alreadyExists key), s.record .create key)
      else (.ok (keptObject k o (s.lastVersion + 1)), (s.record .create key).write k key o) := by
  obtain ⟨rfl, -, -⟩ := Kind.storeKey_eq_ok.1 hkey
  have hcontains : s.objects.contains key =
      (s.object? key.kind key.namespace key.name).isSome := by
    rw [SortedMap.contains, hs.get?_eq key.kind key.namespace key.name, Option.isSome_map]
  simp only [create, hkey, failing_record, objects_record, lastVersion_record, hcontains,
    written_eq, readBack_encode]

theorem update_eq (hs : s.Sound) {o : k.Object} {key : StoreKey}
    (hkey : k.storeKey o = .ok key) :
    s.update k o =
      if .update ∈ s.failing then (.error (.injected .update), s.record .update key)
      else
        match s.object? k key.namespace key.name with
        | none => (.error (.notFound key), s.record .update key)
        | some live =>
          match (k.metadata o).resourceVersion.filter
              (· ≠ (k.metadata live).resourceVersion.getD "") with
          | some stale => (.error (.conflict key stale), s.record .update key)
          | none =>
            let o := k.withMetadata o { k.metadata o with uid := (k.metadata live).uid }
            (.ok (keptObject k o (s.lastVersion + 1)),
              (s.record .update key).write k key o) := by
  obtain ⟨rfl, -, -⟩ := Kind.storeKey_eq_ok.1 hkey
  have hget := hs.get?_eq key.kind key.namespace key.name
  simp only [update, hkey, failing_record, objects_record, hget]
  cases s.object? key.kind key.namespace key.name with
  | none => rfl
  | some live =>
      cases hstale : (key.kind.metadata o).resourceVersion.filter
          (· ≠ (key.kind.metadata live).resourceVersion.getD "") with
      | some stale => simp only [Option.map_some, metadataText?_resourceVersion, hstale]
      | none =>
          simp only [Option.map_some, metadataText?_resourceVersion, metadataText?_uid, hstale,
            written_eq, readBack_encode, lastVersion_record]

/-- An object that still names the version and identifier of the kept one replaces it as it is. -/
theorem update_current (hs : s.Sound) {o live : k.Object} {key : StoreKey}
    (hkey : k.storeKey o = .ok key) (hlive : s.object? k key.namespace key.name = some live)
    (hversion : (k.metadata o).resourceVersion = (k.metadata live).resourceVersion)
    (huid : (k.metadata o).uid = (k.metadata live).uid) :
    s.update k o =
      if .update ∈ s.failing then (.error (.injected .update), s.record .update key)
      else (.ok (keptObject k o (s.lastVersion + 1)), (s.record .update key).write k key o) := by
  have hcurrent : (k.metadata o).resourceVersion.filter
      (· ≠ (k.metadata live).resourceVersion.getD "") = none := by
    rw [hversion]
    cases (k.metadata live).resourceVersion <;> simp
  have hsame : k.withMetadata o { k.metadata o with uid := (k.metadata live).uid } = o := by
    rw [← huid]
    exact k.withMetadata_metadata o
  simp only [hs.update_eq hkey, hlive, hcurrent, hsame]

theorem get (hs : s.Sound) (k : Kind) (ns name : String) : (s.get k ns name).2.Sound := by
  rw [hs.get_eq]
  exact hs.of_objects_eq rfl le_rfl

theorem insert (hs : s.Sound) (k : Kind) (o : k.Object) : (s.insert k o).2.Sound := by
  unfold MemoryStore.insert
  cases hkey : k.storeKey o with
  | error e => exact hs.of_objects_eq rfl (Nat.le_succ _)
  | ok key => exact hs.write hkey

theorem record (hs : s.Sound) (op : Operation) (key : StoreKey) : (s.record op key).Sound :=
  hs.of_objects_eq rfl le_rfl

theorem create (hs : s.Sound) (k : Kind) (o : k.Object) : (s.create k o).2.Sound := by
  cases hkey : k.storeKey o with
  | error e => simpa [MemoryStore.create, hkey] using hs
  | ok key =>
      rw [hs.create_eq hkey]
      split_ifs
      · exact hs.record _ _
      · exact hs.record _ _
      · exact (hs.record _ _).write hkey

theorem update (hs : s.Sound) (k : Kind) (o : k.Object) : (s.update k o).2.Sound := by
  cases hkey : k.storeKey o with
  | error e => simpa [MemoryStore.update, hkey] using hs
  | ok key =>
      rw [hs.update_eq hkey]
      split_ifs
      · exact hs.record _ _
      · split
        · exact hs.record _ _
        · split
          · exact hs.record _ _
          · refine (hs.record _ _).write (Kind.storeKey_congr ?_ ?_ hkey)
            · simp
            · simp [ObjectMeta.anyName]

theorem run {α : Type} (p : StoreProgram α) (hs : s.Sound) : (s.run p).2.Sound := by
  induction p generalizing s with
  | done a => exact hs
  | get k ns name next ih => exact ih _ (hs.get k ns name)
  | create k o next ih => exact ih _ (hs.create k o)
  | update k o next ih => exact ih _ (hs.update k o)

end Sound

theorem Reachable.sound (h : s.Reachable) : s.Sound := by
  induction h with
  | empty => exact sound_empty
  | insert k o _ ih => exact ih.insert k o
  | get k ns name _ ih => exact ih.get k ns name
  | create k o _ ih => exact ih.create k o
  | update k o _ ih => exact ih.update k o
  | fail op _ ih => exact ih.of_objects_eq rfl le_rfl
  | recover op _ ih => exact ih.of_objects_eq rfl le_rfl
  | clearCalls _ ih => exact ih.of_objects_eq rfl le_rfl

end ApiPlatform.MemoryStore
