import ApiPlatform.Failure
import ApiPlatform.Resource.Kind
import ApiPlatform.Text.Quoted
/-!
# Owners

An owner reference is drafted in steps and then checked: it needs everything that identifies the
owner, and a stored object has an identifier only once a store has given it one.
-/

namespace ApiPlatform

/-- What goes wrong when an owner reference is made. -/
inductive OwnerError where
  | missingKey (key : String)
  deriving DecidableEq

instance : Failure OwnerError where
  label
    | .missingKey _ => "MissingObjectKey"
  message
    | .missingKey key => s!"object is missing key {Text.quote key}"

/-- An owner reference in the making. -/
structure OwnerDraft where
  apiVersion : Option String := none
  kind : Option String := none
  name : Option String := none
  uid : Option String := none
  blockOwnerDeletion : Option Bool := none
  controller : Option Bool := none
  deriving DecidableEq, Inhabited

namespace OwnerDraft

/-- Names an object as the owner. -/
def describing (d : OwnerDraft) (k : Kind) (o : k.Object) : OwnerDraft :=
  { d with
    apiVersion := some k.apiVersion
    kind := some k.name
    name := some (k.objectName o)
    uid := (k.metadata o).uid }

/-- A part that has to be there. -/
def need (key : String) : Option String → Except OwnerError String
  | some s => .ok s
  | none => .error (.missingKey key)

/-- The finished reference; the first part that is missing decides. -/
def build (d : OwnerDraft) : Except OwnerError OwnerReference := do
  let apiVersion ← need "api_version" d.apiVersion
  let kind ← need "kind" d.kind
  let name ← need "name" d.name
  let uid ← need "uid" d.uid
  .ok
    { apiVersion, kind, name, uid
      blockOwnerDeletion := d.blockOwnerDeletion
      controller := d.controller }

end OwnerDraft

def Kind.ownerReference (k : Kind) (o : k.Object) (block controller : Option Bool) :
    Except OwnerError OwnerReference :=
  (({ blockOwnerDeletion := block, controller } : OwnerDraft).describing k o).build

end ApiPlatform
