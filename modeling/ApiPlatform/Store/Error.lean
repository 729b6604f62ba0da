import ApiPlatform.Failure
import ApiPlatform.Store.Key
import ApiPlatform.Text.Quoted
/-!
# Store errors

What goes wrong between a store and its callers.
-/

namespace ApiPlatform

/-- Why a request to a cluster brought no object. -/
inductive RequestFailure where
  /-- The request cannot be sent as it is. -/
  | unsendable
  /-- The cluster refused it, with a status code and a reason. -/
  | refused (code : Nat) (reason : String)
  /-- The answer is no object of the kind. -/
  | unreadable
  deriving DecidableEq

/-- What a failed request says. -/
def RequestFailure.message : RequestFailure → String
  | .unsendable => "request cannot be sent"
  | .refused code reason => s!"request refused with status {code} {Text.quote reason}"
  | .unreadable => "answer cannot be read"

/-- What goes wrong in a store. -/
inductive StoreError where
  | get (key : StoreKey) (source : RequestFailure)
  | create (kind : Kind) (name : String) (source : RequestFailure)
  | update (kind : Kind) (name : String) (source : RequestFailure)
  | missingNamespace (kind : Kind) (name : String)
  | alreadyExists (key : StoreKey)
  | notFound (key : StoreKey)
  /-- The object was changed since the given resource version. -/
  | conflict (key : StoreKey) (resourceVersion : String)
  | codec (kind : Kind) (name : String)
  /-- The operation was told to fail. -/
  | injected (operation : Operation)
  deriving DecidableEq

instance : Failure StoreError where
  label
    | .get _ _ => "Get"
    | .create _ _ _ => "Create"
    | .update _ _ _ => "Update"
    | .missingNamespace _ _ => "MissingNamespace"
    | .alreadyExists _ => "AlreadyExists"
    | .notFound _ => "NotFound"
    | .conflict _ _ => "Conflict"
    | .codec _ _ => "Codec"
    | .injected _ => "Injected"
  message
    | .get key _ => s!"failed to get {key.text}"
    | .create kind name _ => s!"failed to create {kind.name} {Text.quote name}"
    | .update kind name _ => s!"failed to update {kind.name} {Text.quote name}"
    | .missingNamespace kind name => s!"{kind.name} {Text.quote name} has no namespace"
    | .alreadyExists key => s!"{key.text} already exists"
    | .notFound key => s!"{key.text} does not exist"
    | .conflict key version =>
      s!"{key.text} was modified concurrently, resource version {Text.quote version} is stale"
    | .codec kind name => s!"failed to encode or decode {kind.name} {Text.quote name}"
    | .injected operation => s!"injected {operation.name} failure"
  causes
    | .get _ source => [source.message]
    | .create _ _ source => [source.message]
    | .update _ _ source => [source.message]
    | _ => []

end ApiPlatform
