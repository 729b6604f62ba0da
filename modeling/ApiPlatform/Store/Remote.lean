import ApiPlatform.Store.Program
import ApiPlatform.Url.Percent
/-!
# The store of a cluster

Store calls as requests to the API of a cluster, and what the answers mean.  A read that is
refused because there is no such object brings nothing and is no error.  A write that is refused
with the code for a conflict means that the object is there already, or was changed meanwhile.
-/

namespace ApiPlatform

inductive RequestMethod where
  | get
  | post
  | put
  deriving DecidableEq, Repr

def RequestMethod.name : RequestMethod → String
  | .get => "GET"
  | .post => "POST"
  | .put => "PUT"

structure ApiRequest where
  method : RequestMethod
  path : String
  query : String := ""
  body : Option Json := none

structure ApiAnswer where
  code : Nat
  body : Json

/-- The answer where none comes. -/
def ApiAnswer.missing : ApiAnswer := { code := 500, body := .null }

inductive WatchNamespace where
  | all
  | one (name : String)
  deriving DecidableEq

/-- The namespaces that a text selects; the empty text selects all of them. -/
def WatchNamespace.ofText (s : String) : WatchNamespace := if s = "" then .all else .one s

namespace Kind

/-- The path of the objects of a kind, in all namespaces or in one. -/
def collectionPath (k : Kind) (w : WatchNamespace) : String :=
  let root := if k.group = "" then "/api/" else "/apis/"
  let inNamespace := match w with
    | .all => ""
    | .one ns => s!"namespaces/{ns}/"
  root ++ k.apiVersion ++ "/" ++ inNamespace ++ k.plural

end Kind

namespace ApiRequest

/-- The longest name of a field manager, in bytes. -/
def fieldManagerLimit : Nat := 128

/-- Whether a character may stand in the path of a request. -/
def isPathChar (c : Char) : Bool :=
  '!' ≤ c && !(['#', '<', '>', '?', '\x60'].contains c)

/-- Whether a character may stand in the query of a request. -/
def isQueryChar (c : Char) : Bool := '!' ≤ c && !(['"', '#', '<', '>'].contains c)

/-- A request for a place, given as path and query in one; a number sign ends it. -/
def toPlace? (method : RequestMethod) (place : String) (body : Option Json) : Option ApiRequest :=
  let cs := place.toList.takeWhile (· ≠ '#')
  let path := cs.takeWhile (· ≠ '?')
  let query := (cs.drop path.length).drop 1
  if path.all isPathChar && query.all isQueryChar then
    some { method, path := String.ofList path, query := String.ofList query, body }
  else none

def writeQuery (fieldManager : Option String) : String :=
  match fieldManager with
  | some m => "fieldManager=" ++ Percent.encodeForm m
  | none => ""

/-- The request of a read; an object without a name cannot be asked for. -/
def get? (k : Kind) (ns name : String) : Option ApiRequest :=
  if name = "" then none
  else toPlace? .get (k.collectionPath (.one ns) ++ "/" ++ name) none

/-- The request that adds an object. -/
def create? (fieldManager : Option String) (k : Kind) (ns : String) (o : k.Object) :
    Option ApiRequest :=
  if fieldManager.any (fieldManagerLimit < ·.utf8ByteSize) then none
  else
    toPlace? .post (k.collectionPath (.one ns) ++ "?" ++ writeQuery fieldManager)
      (some (k.codec.encode o))

/-- The request that replaces an object. -/
def update? (fieldManager : Option String) (k : Kind) (ns : String) (o : k.Object) :
    Option ApiRequest :=
  if k.objectName o = "" then none
  else
    toPlace? .put
      (k.collectionPath (.one ns) ++ "/" ++ k.objectName o ++ "?" ++ writeQuery fieldManager)
      (some (k.codec.encode o))

end ApiRequest

namespace ApiAnswer

/-- Numbers of two bytes. -/
def decodeCode (j : Json) : Option Nat :=
  match j with
  | .int n => if 0 ≤ n ∧ n < 65536 then some n.toNat else none
  | _ => none

/-- Whether a field is absent, `null` or an object. -/
def holdsObject (j : Json) (field : String) : Bool :=
  match j.field? field with
  | none | some .null | some (.obj _) => true
  | _ => false

/-- The code and the reason that a status object states. -/
def status? (body : Json) : Option (Nat × String) :=
  match body with
  | .obj _ => do
    let code ← match body.field? "code" with
      | some j => decodeCode j
      | none => some 0
    let reason ← match body.field? "reason" with
      | some j => Codec.string.decode j
      | none => some ""
    let _ ← match body.field? "message" with
      | some j => Codec.string.decode j
      | none => some ""
    let outcome ← match body.field? "status" with
      | none | some .null => some true
      | some j => (Codec.string.decode j).map fun s => s = "Success" || s = "Failure"
    if outcome && holdsObject body "metadata" && holdsObject body "details" then
      some (code, reason)
    else none
  | _ => none

/-- The object in an answer.  A refusal that states no status counts by its own code. -/
def object (a : ApiAnswer) (k : Kind) : Except RequestFailure k.Object :=
  if 400 ≤ a.code then
    let (code, reason) := (status? a.body).getD (a.code, "Failed to parse error data")
    .error (.refused code reason)
  else
    match k.codec.decode a.body with
    | some o => .ok o
    | none => .error .unreadable

end ApiAnswer

namespace RequestFailure

def isNotFound : RequestFailure → Bool
  | .refused _ reason => reason = "NotFound"
  | _ => false

/-- Whether the object is not as the request takes it to be. -/
def isConflict : RequestFailure → Bool
  | .refused code _ => code = 409
  | _ => false

end RequestFailure

/-- A connection to a cluster whose answers are known beforehand, with the requests so far. -/
structure RemoteStore where
  fieldManager : Option String := none
  answers : List ApiAnswer := []
  requests : List ApiRequest := []

namespace RemoteStore

/-- Sends a request, if there is one, and reads the object in the answer. -/
def send (s : RemoteStore) (k : Kind) (r : Option ApiRequest) :
    Except RequestFailure k.Object × RemoteStore :=
  match r with
  | none => (.error .unsendable, s)
  | some r =>
    ((s.answers.headD .missing).object k,
      { s with answers := s.answers.tail, requests := s.requests ++ [r] })

def get (s : RemoteStore) (k : Kind) (ns name : String) :
    Except StoreError (Option k.Object) × RemoteStore :=
  match s.send k (ApiRequest.get? k ns name) with
  | (.ok o, s) => (.ok (some o), s)
  | (.error e, s) =>
    if e.isNotFound then (.ok none, s)
    else (.error (.get { kind := k, «namespace» := ns, name } e), s)

def create (s : RemoteStore) (k : Kind) (o : k.Object) :
    Except StoreError k.Object × RemoteStore :=
  match k.storeKey o with
  | .error e => (.error e, s)
  | .ok key =>
    let (answer, s) := s.send k (ApiRequest.create? s.fieldManager k key.namespace o)
    (answer.mapError fun e =>
      if e.isConflict then .alreadyExists key else .create k key.name e, s)

def update (s : RemoteStore) (k : Kind) (o : k.Object) :
    Except StoreError k.Object × RemoteStore :=
  match k.storeKey o with
  | .error e => (.error e, s)
  | .ok key =>
    let (answer, s) := s.send k (ApiRequest.update? s.fieldManager k key.namespace o)
    (answer.mapError fun e =>
      if e.isConflict then .conflict key ((k.metadata o).resourceVersion.getD "")
      else .update k key.name e, s)

/-- Runs a program against the cluster. -/
def run {α : Type} : StoreProgram α → RemoteStore → α × RemoteStore
  | .done a, s => (a, s)
  | .get k ns name next, s =>
    let (answer, s) := s.get k ns name
    run (next answer) s
  | .create k o next, s =>
    let (answer, s) := s.create k o
    run (next answer) s
  | .update k o next, s =>
    let (answer, s) := s.update k o
    run (next answer) s

end RemoteStore

end ApiPlatform
