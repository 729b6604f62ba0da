import ApiPlatform.Resource.Metadata
/-!
# The gateway resource

A custom resource that asks for a standalone API gateway.  It says where the URL and the access
token of the admin portal are kept; everything else has a default or may stay unset.
-/

namespace ApiPlatform

/-- A key of a Secret in the namespace of the gateway. -/
structure SecretKeyRef where
  name : String := ""
  key : String := ""
  deriving DecidableEq, Inhabited

/-- Where the URL and the access token of the admin portal are kept. -/
structure AdminPortalRef where
  url : SecretKeyRef := {}
  accessToken : SecretKeyRef := {}
  deriving DecidableEq, Inhabited

/-- What a gateway is asked to be. -/
structure GatewaySpec where
  /-- Number of gateway pods. -/
  replicas : Option Int64 := none
  /-- Image of the gateway container. -/
  image : Option String := none
  /-- Account that the pods run under. -/
  serviceAccount : Option String := none
  /-- Host that leads to the gateway; without one there is no ingress. -/
  exposedHostname : Option String := none
  /-- Where the admin portal credentials are kept. -/
  adminPortal : AdminPortalRef := {}
  /-- Secret whose entries become variables of the gateway; it has to exist. -/
  environmentSecret : Option String := none
  deriving DecidableEq, Inhabited

/-- The custom resource. -/
structure Gateway where
  metadata : ObjectMeta := {}
  spec : GatewaySpec := {}
  deriving DecidableEq, Inhabited

def SecretKeyRef.codec : Codec SecretKeyRef :=
  ((Fields.absentAs "name" .string "").and <| Fields.absentAs "key" .string "").iso
    (fun (name, key) => ⟨name, key⟩) (fun r => (r.name, r.key)) (fun _ => rfl) |>.recordCodec

def AdminPortalRef.codec : Codec AdminPortalRef :=
  ((Fields.required "urlSecretKeyRef" SecretKeyRef.codec).and <|
    Fields.required "accessTokenSecretKeyRef" SecretKeyRef.codec).iso
    (fun (url, token) => ⟨url, token⟩) (fun r => (r.url, r.accessToken)) (fun _ => rfl)
    |>.recordCodec

def GatewaySpec.codec : Codec GatewaySpec :=
  ((Fields.optional "replicas" .int64).and <|
    (Fields.optional "image" .string).and <|
    (Fields.optional "serviceAccount" .string).and <|
    (Fields.optional "exposedHostname" .string).and <|
    (Fields.required "adminPortalCredentialsRef" AdminPortalRef.codec).and <|
    Fields.optional "environmentConfigurationSecretRef"
      (Fields.absentAs "name" .string "").recordCodec).iso
    (fun (replicas, image, account, host, portal, environment) =>
      ⟨replicas, image, account, host, portal, environment⟩)
    (fun s => (s.replicas, s.image, s.serviceAccount, s.exposedHostname, s.adminPortal,
      s.environmentSecret))
    (fun _ => rfl) |>.recordCodec

namespace Gateway

def group : String := "apps.3scale.net"

def version : String := "v1alpha1"

/-- Kind under which clusters know the resource. -/
def kindName : String := "APIcast"

def apiVersion : String := "apps.3scale.net/v1alpha1"

def codec : Codec Gateway :=
  (((Fields.label "apiVersion" apiVersion).and (Fields.label "kind" kindName)).and <|
    (Fields.required "metadata" ObjectMeta.codec).and <|
    Fields.required "spec" GatewaySpec.codec).iso
    (fun (_, metadata, spec) => ⟨metadata, spec⟩)
    (fun g => (((), ()), g.metadata, g.spec)) (fun _ => rfl) |>.codec

end Gateway

namespace GatewaySpec

/-- Number of pods unless the gateway states another one. -/
def defaultReplicas : Int64 := 1

/-- Account of the pods unless the gateway states another one. -/
def defaultServiceAccount : String := "default"

/-- Image of the gateway container unless the gateway states another one. -/
def defaultImage : String := "registry.access.redhat.com/3scale-amp25/apicast-gateway"

def lacksDefaults (s : GatewaySpec) : Bool :=
  s.replicas.isNone || s.serviceAccount.isNone || s.image.isNone

/-- Sets each field that is unset and has a default. -/
def withDefaults (s : GatewaySpec) : GatewaySpec :=
  { s with
    replicas := some (s.replicas.getD defaultReplicas)
    serviceAccount := some (s.serviceAccount.getD defaultServiceAccount)
    image := some (s.image.getD defaultImage) }

end GatewaySpec

end ApiPlatform
