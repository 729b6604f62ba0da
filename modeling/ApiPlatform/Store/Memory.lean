import ApiPlatform.Store.Program
import ApiPlatform.Text.Bytes
/-!
# The store in memory

Keeps objects in their written form.  Every write takes a new version number; a write of an
object that names an older version is refused.  Calls are recorded, and operations can be told to
fail.  Texts of a Secret are kept as bytes.
-/

namespace ApiPlatform

/-- The Secret with its texts among its bytes. -/
def Secret.folded (s : Secret) : Secret :=
  { s with
    data := match s.stringData with
      | some texts => some ((s.data.getD .empty).union (texts.mapValues Bytes.ofText))
      | none => s.data
    stringData := none }

/-- The form in which the values of an object are kept. -/
def Kind.folded : (k : Kind) → k.Object → k.Object
  | .secret, (o : Secret) => o.folded
  | .configMap, o => o
  | .service, o => o
  | .deployment, o => o
  | .deploymentConfig, o => o
  | .route, o => o
  | .ingress, o => o
  | .imageStream, o => o
  | .serviceAccount, o => o
  | .persistentVolumeClaim, o => o
  | .gateway, o => o

/-- The objects, the calls so far, the operations that fail and the last version number. -/
structure MemoryStore where
  objects : SortedMap StoreKey Json := .empty
  calls : List StoreCall := []
  failing : List Operation := []
  lastVersion : Nat := 0

namespace MemoryStore

/-- The text of a version number. -/
def versionText (n : Nat) : String := toString n

/-- The identifier of an object that came in without one. -/
def newUid (version : Nat) : String := "memory-" ++ versionText version

/-- What is kept of an object: its version is the given one, and it has an identifier. -/
def written (k : Kind) (o : k.Object) (version : Nat) : Json :=
  let m := k.metadata o
  k.codec.encode (k.folded (k.withMetadata o
    { m with
      resourceVersion := some (versionText version)
      uid := some (m.uid.getD (newUid version)) }))

/-- Reads an object in its kept form. -/
def readBack (k : Kind) (name : String) (j : Json) : Except StoreError k.Object :=
  match k.codec.decode j with
  | some o => .ok o
  | none => .error (.codec k name)

/-- A text in the metadata of a kept object. -/
def metadataText? (field : String) (j : Json) : Option String :=
  match (j.field? "metadata").bind (·.field? field) with
  | some (.str s) => some s
  | _ => none

def size (s : MemoryStore) : Nat := s.objects.size

def isEmpty (s : MemoryStore) : Bool := s.objects.isEmpty

/-- Makes every later call of an operation fail. -/
def fail (s : MemoryStore) (op : Operation) : MemoryStore :=
  { s with failing := op :: s.failing.filter (· ≠ op) }

/-- Lets later calls of an operation succeed again. -/
def recover (s : MemoryStore) (op : Operation) : MemoryStore :=
  { s with failing := s.failing.filter (· ≠ op) }

def clearCalls (s : MemoryStore) : MemoryStore := { s with calls := [] }

def record (s : MemoryStore) (operation : Operation) (key : StoreKey) : MemoryStore :=
  { s with calls := s.calls ++ [{ operation, key }] }

/-- Takes the next version number. -/
def advance (s : MemoryStore) : MemoryStore := { s with lastVersion := s.lastVersion + 1 }

/-- Keeps an object under the next version number. -/
def write (s : MemoryStore) (k : Kind) (key : StoreKey) (o : k.Object) : MemoryStore :=
  { s with
    lastVersion := s.lastVersion + 1
    objects := s.objects.insert key (written k o (s.lastVersion + 1)) }

/-- Puts an object in without recording a call, over one of the same key.  The version number is
taken before the key is known. -/
def insert (s : MemoryStore) (k : Kind) (o : k.Object) : Except StoreError Unit × MemoryStore :=
  match k.storeKey o with
  | .error e => (.error e, s.advance)
  | .ok key => (.ok (), s.write k key o)

/-- Reads an object without recording a call. -/
def peek (s : MemoryStore) (k : Kind) («namespace» name : String) :
    Except StoreError (Option k.Object) :=
  match s.objects.get? { kind := k, «namespace», name } with
  | some j => (readBack k name j).map some
  | none => .ok none

def get (s : MemoryStore) (k : Kind) («namespace» name : String) :
    Except StoreError (Option k.Object) × MemoryStore :=
  let s := s.record .get { kind := k, «namespace», name }
  if .get ∈ s.failing then (.error (.injected .get), s) else (s.peek k «namespace» name, s)

/-- Adds an object; its key has to be free. -/
def create (s : MemoryStore) (k : Kind) (o : k.Object) : Except StoreError k.Object × MemoryStore :=
  match k.storeKey o with
  | .error e => (.error e, s)
  | .ok key =>
    let s := s.record .create key
    if .create ∈ s.failing then (.error (.injected .create), s)
    else if s.objects.contains key then (.error (.alreadyExists key), s)
    else (readBack k key.name (written k o (s.lastVersion + 1)), s.write k key o)

/-- Replaces an object, which keeps its identifier.  An object that names a version has to name
the kept one. -/
def update (s : MemoryStore) (k : Kind) (o : k.Object) : Except StoreError k.Object × MemoryStore :=
  match k.storeKey o with
  | .error e => (.error e, s)
  | .ok key =>
    let s := s.record .update key
    if .update ∈ s.failing then (.error (.injected .update), s)
    else
      match s.objects.get? key with
      | none => (.error (.notFound key), s)
      | some kept =>
        let m := k.metadata o
        let current := (metadataText? "resourceVersion" kept).getD ""
        match m.resourceVersion.filter (· ≠ current) with
        | some stale => (.error (.conflict key stale), s)
        | none =>
          let o := k.withMetadata o { m with uid := metadataText? "uid" kept }
          (readBack k key.name (written k o (s.lastVersion + 1)), s.write k key o)

/-- Runs a program against the store. -/
def run {α : Type} : StoreProgram α → MemoryStore → α × MemoryStore
  | .done a, s => (a, s)
  | .get k ns name next, s =>
    let (answer, s) := s.get k ns name
    run (next answer) s
  | .create k o next, s =>
    let (answer, s) := s.create k o
    run (next answer) s
  | .update k o next, s =>
    let (answer, s) := s.update k o
    run (next answer) s

end MemoryStore

end ApiPlatform
