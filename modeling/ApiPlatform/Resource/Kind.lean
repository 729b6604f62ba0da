import ApiPlatform.Gateway.Resource
import ApiPlatform.Resource.Network
import ApiPlatform.Resource.Settings
import ApiPlatform.Resource.Workload
/-!
# Kinds

The closed list of resource kinds, and for each the type of its objects, its place in the cluster
API and its written form.
-/

namespace ApiPlatform

/-- The kinds that templates hold and stores keep, in the order in which keys are listed. -/
inductive Kind where
  | secret
  | configMap
  | service
  | deployment
  | deploymentConfig
  | route
  | ingress
  | imageStream
  | serviceAccount
  | persistentVolumeClaim
  | gateway
  deriving DecidableEq, Repr, Inhabited

namespace Kind

def all : List Kind :=
  [.secret, .configMap, .service, .deployment, .deploymentConfig, .route, .ingress, .imageStream,
    .serviceAccount, .persistentVolumeClaim, .gateway]

/-- The name of a kind in objects and keys. -/
def name : Kind → String
  | .secret => "Secret"
  | .configMap => "ConfigMap"
  | .service => "Service"
  | .deployment => "Deployment"
  | .deploymentConfig => "DeploymentConfig"
  | .route => "Route"
  | .ingress => "Ingress"
  | .imageStream => "ImageStream"
  | .serviceAccount => "ServiceAccount"
  | .persistentVolumeClaim => "PersistentVolumeClaim"
  | .gateway => Gateway.kindName

/-- No two kinds share a name. -/
theorem name_injective {k k' : Kind} (h : k.name = k'.name) : k = k' := by
  cases k <;> cases k' <;> first | rfl | exact absurd h (by decide)

theorem mem_all (k : Kind) : k ∈ all := by
  cases k <;> decide

/-- A property of kinds is decided by going through the list. -/
instance {p : Kind → Prop} [DecidablePred p] : Decidable (∀ k, p k) :=
  decidable_of_iff (∀ k ∈ all, p k) ⟨fun h k => h k (mem_all k), fun h k _ => h k⟩

def ofName? (s : String) : Option Kind := all.find? (·.name = s)

def group : Kind → String
  | .secret | .configMap | .service | .serviceAccount | .persistentVolumeClaim => ""
  | .deployment => "apps"
  | .deploymentConfig => "apps.openshift.io"
  | .route => "route.openshift.io"
  | .ingress => "networking.k8s.io"
  | .imageStream => "image.openshift.io"
  | .gateway => Gateway.group

def version : Kind → String
  | .gateway => Gateway.version
  | _ => "v1"

/-- The name of the collection in request paths. -/
def plural : Kind → String
  | .secret => "secrets"
  | .configMap => "configmaps"
  | .service => "services"
  | .deployment => "deployments"
  | .deploymentConfig => "deploymentconfigs"
  | .route => "routes"
  | .ingress => "ingresses"
  | .imageStream => "imagestreams"
  | .serviceAccount => "serviceaccounts"
  | .persistentVolumeClaim => "persistentvolumeclaims"
  | .gateway => "apicasts"

def isWorkload : Kind → Bool
  | .deployment | .deploymentConfig => true
  | _ => false

abbrev Object : Kind → Type
  | .secret => Secret
  | .configMap => ConfigMap
  | .service => Service
  | .deployment => Deployment
  | .deploymentConfig => DeploymentConfig
  | .route => Route
  | .ingress => Ingress
  | .imageStream => ImageStream
  | .serviceAccount => ServiceAccount
  | .persistentVolumeClaim => PersistentVolumeClaim
  | .gateway => Gateway

def codec : (k : Kind) → Codec k.Object
  | .secret => Secret.codec
  | .configMap => ConfigMap.codec
  | .service => Service.codec
  | .deployment => Deployment.codec
  | .deploymentConfig => DeploymentConfig.codec
  | .route => Route.codec
  | .ingress => Ingress.codec
  | .imageStream => ImageStream.codec
  | .serviceAccount => ServiceAccount.codec
  | .persistentVolumeClaim => PersistentVolumeClaim.codec
  | .gateway => Gateway.codec

def metadata : (k : Kind) → k.Object → ObjectMeta
  | .secret, (o : Secret) => o.metadata
  | .configMap, (o : ConfigMap) => o.metadata
  | .service, (o : Service) => o.metadata
  | .deployment, (o : Deployment) => o.metadata
  | .deploymentConfig, (o : DeploymentConfig) => o.metadata
  | .route, (o : Route) => o.metadata
  | .ingress, (o : Ingress) => o.metadata
  | .imageStream, (o : ImageStream) => o.metadata
  | .serviceAccount, (o : ServiceAccount) => o.metadata
  | .persistentVolumeClaim, (o : PersistentVolumeClaim) => o.metadata
  | .gateway, (o : Gateway) => o.metadata

def withMetadata : (k : Kind) → k.Object → ObjectMeta → k.Object
  | .secret, (o : Secret), m => { o with metadata := m }
  | .configMap, (o : ConfigMap), m => { o with metadata := m }
  | .service, (o : Service), m => { o with metadata := m }
  | .deployment, (o : Deployment), m => { o with metadata := m }
  | .deploymentConfig, (o : DeploymentConfig), m => { o with metadata := m }
  | .route, (o : Route), m => { o with metadata := m }
  | .ingress, (o : Ingress), m => { o with metadata := m }
  | .imageStream, (o : ImageStream), m => { o with metadata := m }
  | .serviceAccount, (o : ServiceAccount), m => { o with metadata := m }
  | .persistentVolumeClaim, (o : PersistentVolumeClaim), m => { o with metadata := m }
  | .gateway, (o : Gateway), m => { o with metadata := m }

/-- The name that an object goes by. -/
def objectName (k : Kind) (o : k.Object) : String := (k.metadata o).anyName

/-- API group and version as objects state them. -/
def apiVersion (k : Kind) : String :=
  if k.group = "" then k.version else k.group ++ "/" ++ k.version

@[simp] theorem metadata_withMetadata (k : Kind) (o : k.Object) (m : ObjectMeta) :
    k.metadata (k.withMetadata o m) = m := by
  cases k <;> rfl

end Kind

end ApiPlatform
