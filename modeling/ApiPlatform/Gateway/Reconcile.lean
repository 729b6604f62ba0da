import ApiPlatform.Gateway.Desired
import ApiPlatform.Reconcile.Object
/-!
# Reconciling a gateway

One run reads the gateway, sets its defaults or else reads its credentials, and puts its objects
in place one after the other.  The first failure ends the run; what was done before stays.
-/

namespace ApiPlatform

/-- What a gateway refers to a Secret as. -/
inductive SecretUse where
  | url
  | accessToken
  | environment
  deriving DecidableEq, Repr

/-- What a Secret is referred to as, in words. -/
def SecretUse.text : SecretUse → String
  | .url => "admin portal URL secret key"
  | .accessToken => "admin portal access token secret key"
  | .environment => "environment configuration secret"

/-- The objects of a gateway by their place. -/
inductive GatewayPart where
  | endpointSecret
  | deployment
  | service
  | ingress
  deriving DecidableEq, Repr

def GatewayPart.text : GatewayPart → String
  | .endpointSecret => "admin portal endpoint secret"
  | .deployment => "deployment"
  | .service => "service"
  | .ingress => "ingress"

/-- What ends a run early. -/
inductive GatewayError where
  | getGateway («namespace» name : String) (source : StoreError)
  | persistDefaults (name : String) (source : StoreError)
  | missingSecretName (use : SecretUse)
  | getSecret (secret : String) (source : StoreError)
  | missingSecret (secret : String) (use : SecretUse)
  | missingSecretKey (key secret : String)
  | buildObjects (name : String) (source : DesiredError)
  | reconcileObject (part : GatewayPart) (source : StoreError)
  deriving DecidableEq

namespace GatewayError

/-- Whether someone has to change the gateway or its Secrets before another run can succeed. -/
def isConfiguration : GatewayError → Bool
  | .missingSecretName _ | .missingSecret _ _ | .missingSecretKey _ _ | .buildObjects _ _ => true
  | _ => false

end GatewayError

instance : Failure GatewayError where
  label
    | .getGateway _ _ _ => "GetApicast"
    | .persistDefaults _ _ => "PersistDefaults"
    | .missingSecretName _ => "MissingSecretName"
    | .getSecret _ _ => "GetSecret"
    | .missingSecret _ _ => "MissingSecret"
    | .missingSecretKey _ _ => "MissingSecretKey"
    | .buildObjects _ _ => "BuildObjects"
    | .reconcileObject _ _ => "ReconcileObject"
  message
    | .getGateway ns name _ => s!"failed to get APIcast {ns}/{name}"
    | .persistDefaults name _ => s!"failed to persist the defaulted APIcast {Text.quote name}"
    | .missingSecretName use => s!"field 'name' not specified for the {use.text} reference"
    | .getSecret secret _ => s!"failed to get secret {Text.quote secret}"
    | .missingSecret secret use =>
      s!"secret {Text.quote secret} referenced as {use.text} does not exist"
    | .missingSecretKey key secret =>
      s!"key {Text.quote key} not found in secret {Text.quote secret}"
    | .buildObjects name _ => s!"failed to build the objects of APIcast {Text.quote name}"
    | .reconcileObject part _ => s!"failed to reconcile {part.text}"
  causes
    | .getGateway _ _ source => Failure.trace source
    | .persistDefaults _ source => Failure.trace source
    | .getSecret _ source => Failure.trace source
    | .buildObjects _ source => Failure.trace source
    | .reconcileObject _ source => Failure.trace source
    | _ => []

/-- What is to be done after a run. -/
inductive ReconcileAction where
  | done
  /-- Defaults were written, so the gateway has to be read again. -/
  | needsRequeue
  deriving DecidableEq, Repr

def ReconcileAction.name : ReconcileAction → String
  | .done => "Done"
  | .needsRequeue => "NeedsRequeue"

namespace Gateway

/-- Reads a Secret that has to be named and has to be there. -/
def requiredSecret («namespace» name : String) (use : SecretUse) : StoreM GatewayError Secret := do
  if name = "" then throw (.missingSecretName use)
  match ← (StoreM.get .secret «namespace» name).mapError (GatewayError.getSecret name) with
  | some secret => pure secret
  | none => throw (.missingSecret name use)

/-- Reads one value of a Secret. -/
def secretValue («namespace» : String) (r : SecretKeyRef) (use : SecretUse) :
    StoreM GatewayError String := do
  let secret ← requiredSecret «namespace» r.name use
  match secret.strings.get? r.key with
  | some value => pure value
  | none => throw (.missingSecretKey r.key r.name)

/-- Reads the credentials that a gateway refers to. -/
def credentials («namespace» : String) (g : Gateway) :
    StoreM GatewayError AdminPortalCredentials := do
  let url ← secretValue «namespace» g.spec.adminPortal.url .url
  let accessToken ← secretValue «namespace» g.spec.adminPortal.accessToken .accessToken
  pure { url, accessToken }

/-- Makes sure that the Secret with further variables is there, if one is named. -/
def checkEnvironment («namespace» : String) (g : Gateway) : StoreM GatewayError Unit := do
  match g.spec.environmentSecret with
  | some name => do
    let _ ← requiredSecret «namespace» name .environment
    pure ()
  | none => pure ()

/-- Puts one object in place. -/
def place (part : GatewayPart) (m : ManagedKind) (wanted : m.kind.Object) :
    StoreM GatewayError Unit := do
  let _ ← (m.reconcile wanted).mapError (GatewayError.reconcileObject part)
  pure ()

/-- Puts the objects of a gateway in place, in order. -/
def placeAll (objects : DesiredObjects) : StoreM GatewayError Unit := do
  place .endpointSecret .secret objects.adminPortalEndpoint
  place .deployment .deployment objects.deployment
  place .service .service objects.service
  match objects.ingress with
  | some ingress => place .ingress .ingress ingress
  | none => pure ()

/-- One run for the gateway of a name.  That there is none is no error. -/
def reconcile («namespace» name : String) : StoreM GatewayError ReconcileAction := do
  match ← (StoreM.get .gateway «namespace» name).mapError (.getGateway «namespace» name) with
  | none => pure .done
  | some (g : Gateway) =>
    if g.spec.lacksDefaults then do
      let _ ← (StoreM.update .gateway { g with spec := g.spec.withDefaults }).mapError
        (GatewayError.persistDefaults name)
      pure .needsRequeue
    else do
      let c ← credentials «namespace» g
      checkEnvironment «namespace» g
      let objects ← StoreM.ofExcept ((g.desired c).mapError (GatewayError.buildObjects name))
      placeAll objects
      pure .done

end Gateway

end ApiPlatform
