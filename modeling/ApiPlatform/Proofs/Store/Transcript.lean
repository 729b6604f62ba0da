import ApiPlatform.Store.Memory
import ApiPlatform.Store.Remote
/-!
# Any store

What a program asks of a store and what it makes of the answers, without knowing which store it
is.  A transcript has every call with all that was sent and the answer that came.  The store in
memory and the store of a cluster are two of them (`ObjectStore.run_memory`,
`ObjectStore.run_remote`).
-/

namespace ApiPlatform

/-- A store that gives what answers it likes; `σ` is whatever they depend on besides the call. -/
structure ObjectStore (σ : Type) where
  get : σ → (k : Kind) → («namespace» name : String) → Except StoreError (Option k.Object) × σ
  create : σ → (k : Kind) → k.Object → Except StoreError k.Object × σ
  update : σ → (k : Kind) → k.Object → Except StoreError k.Object × σ

/-- A call with all that was sent, and its answer. -/
inductive StoreExchange where
  | get (k : Kind) («namespace» name : String) (answer : Except StoreError (Option k.Object))
  | create (k : Kind) (o : k.Object) (answer : Except StoreError k.Object)
  | update (k : Kind) (o : k.Object) (answer : Except StoreError k.Object)

namespace ObjectStore

variable {σ α : Type}

def run (store : ObjectStore σ) : StoreProgram α → σ → α × σ
  | .done a, s => (a, s)
  | .get k ns name next, s =>
    let (answer, s) := store.get s k ns name
    run store (next answer) s
  | .create k o next, s =>
    let (answer, s) := store.create s k o
    run store (next answer) s
  | .update k o next, s =>
    let (answer, s) := store.update s k o
    run store (next answer) s

/-- What a program and the store say to each other. -/
def transcript (store : ObjectStore σ) : StoreProgram α → σ → List StoreExchange
  | .done _, _ => []
  | .get k ns name next, s =>
    let (answer, s) := store.get s k ns name
    .get k ns name answer :: transcript store (next answer) s
  | .create k o next, s =>
    let (answer, s) := store.create s k o
    .create k o answer :: transcript store (next answer) s
  | .update k o next, s =>
    let (answer, s) := store.update s k o
    .update k o answer :: transcript store (next answer) s

/-- The transcript of a program with its end: the result, and the store afterwards. -/
def converse (store : ObjectStore σ) (p : StoreProgram α) (s : σ) : List StoreExchange × α × σ :=
  (store.transcript p s, store.run p s)

section

variable {store : ObjectStore σ} {s s' : σ} {k : Kind} {ns name : String} {o : k.Object}

theorem converse_done (a : α) : store.converse (.done a) s = ([], a, s) := rfl

theorem converse_get {answer : Except StoreError (Option k.Object)}
    {next : Except StoreError (Option k.Object) → StoreProgram α}
    (h : store.get s k ns name = (answer, s')) :
    store.converse (.get k ns name next) s =
      (.get k ns name answer :: (store.converse (next answer) s').1,
        (store.converse (next answer) s').2) := by
  simp only [converse, transcript, run, h]

theorem converse_create {answer : Except StoreError k.Object}
    {next : Except StoreError k.Object → StoreProgram α}
    (h : store.create s k o = (answer, s')) :
    store.converse (.create k o next) s =
      (.create k o answer :: (store.converse (next answer) s').1,
        (store.converse (next answer) s').2) := by
  simp only [converse, transcript, run, h]

theorem converse_update {answer : Except StoreError k.Object}
    {next : Except StoreError k.Object → StoreProgram α}
    (h : store.update s k o = (answer, s')) :
    store.converse (.update k o next) s =
      (.update k o answer :: (store.converse (next answer) s').1,
        (store.converse (next answer) s').2) := by
  simp only [converse, transcript, run, h]

end

def memory : ObjectStore MemoryStore :=
  ⟨MemoryStore.get, MemoryStore.create, MemoryStore.update⟩

def remote : ObjectStore RemoteStore :=
  ⟨RemoteStore.get, RemoteStore.create, RemoteStore.update⟩

theorem run_memory (p : StoreProgram α) (s : MemoryStore) : memory.run p s = s.run p := by
  induction p generalizing s with
  | done a => rfl
  | get k ns name next ih => exact ih _ _
  | create k o next ih => exact ih _ _
  | update k o next ih => exact ih _ _

theorem run_remote (p : StoreProgram α) (s : RemoteStore) : remote.run p s = s.run p := by
  induction p generalizing s with
  | done a => rfl
  | get k ns name next ih => exact ih _ _
  | create k o next ih => exact ih _ _
  | update k o next ih => exact ih _ _

end ObjectStore

end ApiPlatform
