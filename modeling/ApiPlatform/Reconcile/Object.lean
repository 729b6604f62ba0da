import ApiPlatform.Reconcile.Significant
import ApiPlatform.Store.Program
/-!
# Reconciling one object

Creates the wanted object where there is none, updates the live one where a significant field
differs, and leaves it alone otherwise.
-/

namespace ApiPlatform

/-- What became of a wanted object. -/
inductive ObjectOutcome where
  | created
  | updated
  | unchanged
  deriving DecidableEq, Repr

def ObjectOutcome.name : ObjectOutcome → String
  | .created => "created"
  | .updated => "updated"
  | .unchanged => "unchanged"

namespace ManagedKind

/-- Brings the stored object in line with the wanted one. -/
def reconcile (m : ManagedKind) (wanted : m.kind.Object) : StoreM StoreError ObjectOutcome := do
  let ns ← StoreM.ofExcept (m.kind.namespaceOf wanted)
  match ← StoreM.get m.kind ns (m.kind.objectName wanted) with
  | none => do
    let _ ← StoreM.create m.kind wanted
    pure .created
  | some live =>
    match m.copyOnto wanted live with
    | (_, []) => pure .unchanged
    | (changed, _ :: _) => do
      let _ ← StoreM.update m.kind changed
      pure .updated

end ManagedKind

end ApiPlatform
