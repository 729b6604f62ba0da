import ApiPlatform.Gateway.Endpoint
import ApiPlatform.Resource.Composition
import ApiPlatform.Resource.Owner
/-!
# The objects of a gateway

What a gateway needs in its cluster: a Secret with the portal endpoint, a Deployment, a service,
and an ingress if it is to be reached from outside.  All of them lie in the namespace of the
gateway and are owned by it.
-/

namespace ApiPlatform

/-- Why the objects of a gateway cannot be made. -/
inductive DesiredError where
  | missingNamespace (name : String)
  | owner (source : OwnerError)
  | endpoint (source : EndpointError)
  | replicasOutOfRange (replicas : Int64)
  deriving DecidableEq

/-- Which end of the range a number lies behind. -/
def rangeMessage (n : Int64) : String :=
  if n < 0 then "number too small to fit in target type"
  else "number too large to fit in target type"

instance : Failure EndpointError where
  label
    | .unreadableUrl _ _ => "ParseAdminPortalUrl"
    | .withoutHost _ => "AdminPortalUrlWithoutHost"
  message
    | .unreadableUrl url _ => s!"admin portal URL {Text.quote url} is not a valid URL"
    | .withoutHost url => s!"admin portal URL {Text.quote url} cannot carry an access token"
  causes
    | .unreadableUrl _ source => [source.message]
    | .withoutHost _ => []

instance : Failure DesiredError where
  label
    | .missingNamespace _ => "MissingNamespace"
    | .owner _ => "OwnerReference"
    | .endpoint source => Failure.label source
    | .replicasOutOfRange _ => "ReplicasOutOfRange"
  message
    | .missingNamespace name => s!"APIcast {Text.quote name} has no namespace"
    | .owner _ => "failed to set the owner reference to the APIcast"
    | .endpoint source => Failure.message source
    | .replicasOutOfRange replicas => s!"replica count {replicas} is out of range"
  causes
    | .missingNamespace _ => []
    | .owner source => Failure.trace source
    | .endpoint source => Failure.causes source
    | .replicasOutOfRange replicas => [rangeMessage replicas]

/-- The objects of a gateway, in the order in which they are put in place. -/
structure DesiredObjects where
  adminPortalEndpoint : Secret
  deployment : Deployment
  service : Service
  ingress : Option Ingress
  deriving DecidableEq

namespace Gateway

/-- Application and component label of the objects. -/
def appLabel : String := "apicast"

def endpointKey : String := "AdminPortalURL"

/-- Name of the port that serves requests. -/
def proxyPort : String := "proxy"

/-- Number of the port that serves requests. -/
def proxyPortNumber : Int32 := 8080

/-- Name of the port that tells how the gateway is. -/
def managementPort : String := "management"

/-- Number of the port that tells how the gateway is. -/
def managementPortNumber : Int32 := 8090

/-- The name that a gateway goes by. -/
def anyName (g : Gateway) : String := g.metadata.anyName

/-- The name of the Deployment, the service and the ingress. -/
def workloadName (g : Gateway) : String := "apicast-" ++ g.anyName

def endpointSecretName (g : Gateway) : String := g.workloadName ++ "-admin-portal-endpoint"

def objectLabels : Labels := Labels.component appLabel appLabel

def objectMeta («namespace» name : String) (owner : OwnerReference) : ObjectMeta :=
  { name := some name
    «namespace» := some «namespace»
    labels := some objectLabels
    ownerReferences := some [owner] }

/-- A health check over the management port. -/
def healthProbe (path : String) (initialDelay period : Int32) : Probe :=
  { Probe.getting (.named managementPort) path with
    initialDelaySeconds := some initialDelay
    timeoutSeconds := some 5
    periodSeconds := some period }

def container (g : Gateway) : Container :=
  let c : Container :=
    { name := g.workloadName
      image := some (g.spec.image.getD GatewaySpec.defaultImage)
      imagePullPolicy := some "IfNotPresent"
      readinessProbe := some (healthProbe "/status/ready" 15 30)
      livenessProbe := some (healthProbe "/status/live" 10 10) }
  let c := (c.addPort proxyPort proxyPortNumber).addPort managementPort managementPortNumber
  let c := c.addEnv
    [.ofSecret "THREESCALE_PORTAL_ENDPOINT" g.endpointSecretName endpointKey,
      .literal "THREESCALE_DEPLOYMENT_ENV" "production",
      .literal "APICAST_CONFIGURATION_LOADER" "boot",
      .literal "APICAST_CONFIGURATION_CACHE" "300"]
  match g.spec.environmentSecret with
  | some secret => c.addEnvFrom (.ofSecret secret)
  | none => c

def podTemplate (g : Gateway) : PodTemplate :=
  ({ labels := Labels.pod objectLabels g.workloadName
     containers := [g.container]
     serviceAccountName := some (g.spec.serviceAccount.getD GatewaySpec.defaultServiceAccount) }
    : PodPlan).template

def endpointSecret (g : Gateway) («namespace» endpoint : String) (owner : OwnerReference) :
    Secret :=
  { metadata := objectMeta «namespace» g.endpointSecretName owner
    stringData := some (.ofList [(endpointKey, endpoint)])
    type := some "Opaque" }

def deployment (g : Gateway) («namespace» : String) (replicas : Int32) (owner : OwnerReference) :
    Deployment :=
  { metadata := objectMeta «namespace» g.workloadName owner
    spec := some
      { replicas := some replicas
        selector := some (Labels.workloadSelector g.workloadName)
        template := g.podTemplate } }

/-- A port of the service, which leads to the container port of the same name. -/
def servicePort (name : String) (port : Int32) : ServicePort :=
  { name := some name
    port
    protocol := some "TCP"
    targetPort := some (.named name) }

def service (g : Gateway) («namespace» : String) (owner : OwnerReference) : Service :=
  { metadata := objectMeta «namespace» g.workloadName owner
    spec := some
      { ports := some
          [servicePort proxyPort proxyPortNumber, servicePort managementPort managementPortNumber]
        selector := some (Labels.workloadSelector g.workloadName) } }

def ingressFor (g : Gateway) («namespace» host : String) (owner : OwnerReference) : Ingress :=
  { metadata := objectMeta «namespace» g.workloadName owner
    spec := some
      { rules := some
          [{ host := some host
             http := some
              [{ path := some "/"
                 pathType := "Prefix"
                 backend :=
                  { service := some
                      { name := g.workloadName
                        port := some { name := some proxyPort } } } }] }] } }

/-- The number of pods as a count that a Deployment can hold. -/
def replicaCount (g : Gateway) : Except DesiredError Int32 :=
  let n := g.spec.replicas.getD GatewaySpec.defaultReplicas
  if Int32.minValue.toInt ≤ n.toInt ∧ n.toInt ≤ Int32.maxValue.toInt then .ok n.toInt32
  else .error (.replicasOutOfRange n)

/-- The objects of a gateway.  The namespace is looked for first, then the identifier, then the
endpoint, then the number of pods. -/
def desired (g : Gateway) (c : AdminPortalCredentials) : Except DesiredError DesiredObjects := do
  let ns ← match g.metadata.namespace with
    | some ns => .ok ns
    | none => .error (.missingNamespace g.anyName)
  let owner ← (Kind.gateway.ownerReference g none (some true)).mapError .owner
  let endpoint ← c.endpoint.mapError .endpoint
  let replicas ← g.replicaCount
  .ok
    { adminPortalEndpoint := g.endpointSecret ns endpoint owner
      deployment := g.deployment ns replicas owner
      service := g.service ns owner
      ingress := g.spec.exposedHostname.map fun host => g.ingressFor ns host owner }

end Gateway

end ApiPlatform
