import ApiPlatform.Resource.Kind
/-!
# Template objects

The objects that a template can hold, as one type, with their identity and the parts that changes
to a template reach into: pods and replica counts.
-/

namespace ApiPlatform

/-- The identity of a template object. -/
structure ObjectKey where
  kind : Kind
  «namespace» : Option String := none
  name : String
  deriving DecidableEq, Inhabited

namespace ObjectKey

/-- The key of an object outside every namespace. -/
def template (kind : Kind) (name : String) : ObjectKey := { kind, name }

/-- `Kind/name` or `Kind/namespace/name`. -/
def text (k : ObjectKey) : String :=
  match k.namespace with
  | some ns => s!"{k.kind.name}/{ns}/{k.name}"
  | none => s!"{k.kind.name}/{k.name}"

/-- Keys are listed by kind, then by namespace with none first, then by name. -/
instance : Ord ObjectKey where
  compare := compareLex (compareOn (fun k => k.kind.ctorIdx))
    (compareLex (compareOn (fun k => k.namespace.isSome))
      (compareLex (compareOn (fun k => k.namespace.getD "")) (compareOn (·.name))))

end ObjectKey

/-- An object of a template. -/
inductive Resource where
  | secret (o : Secret)
  | configMap (o : ConfigMap)
  | service (o : Service)
  | deployment (o : Deployment)
  | deploymentConfig (o : DeploymentConfig)
  | route (o : Route)
  | ingress (o : Ingress)
  | imageStream (o : ImageStream)
  | serviceAccount (o : ServiceAccount)
  | persistentVolumeClaim (o : PersistentVolumeClaim)
  deriving DecidableEq

namespace Resource

def kind : Resource → Kind
  | .secret _ => .secret
  | .configMap _ => .configMap
  | .service _ => .service
  | .deployment _ => .deployment
  | .deploymentConfig _ => .deploymentConfig
  | .route _ => .route
  | .ingress _ => .ingress
  | .imageStream _ => .imageStream
  | .serviceAccount _ => .serviceAccount
  | .persistentVolumeClaim _ => .persistentVolumeClaim

/-- The object of a kind as a template object; gateways are in no template. -/
def ofKind : (k : Kind) → k.Object → Option Resource
  | .secret, o => some (.secret o)
  | .configMap, o => some (.configMap o)
  | .service, o => some (.service o)
  | .deployment, o => some (.deployment o)
  | .deploymentConfig, o => some (.deploymentConfig o)
  | .route, o => some (.route o)
  | .ingress, o => some (.ingress o)
  | .imageStream, o => some (.imageStream o)
  | .serviceAccount, o => some (.serviceAccount o)
  | .persistentVolumeClaim, o => some (.persistentVolumeClaim o)
  | .gateway, _ => none

def object : (r : Resource) → r.kind.Object
  | .secret o => o
  | .configMap o => o
  | .service o => o
  | .deployment o => o
  | .deploymentConfig o => o
  | .route o => o
  | .ingress o => o
  | .imageStream o => o
  | .serviceAccount o => o
  | .persistentVolumeClaim o => o

def toJson (r : Resource) : Json := r.kind.codec.encode r.object

def metadata (r : Resource) : ObjectMeta := r.kind.metadata r.object

/-- The name of an object; empty if it states none. -/
def name (r : Resource) : String := r.metadata.name.getD ""

def key (r : Resource) : ObjectKey :=
  { kind := r.kind, «namespace» := r.metadata.namespace, name := r.name }

def labels (r : Resource) : Option Labels := r.metadata.labels

def isWorkload (r : Resource) : Bool := r.kind.isWorkload

/-- The pods that a workload creates. -/
def podTemplate? : Resource → Option PodTemplate
  | .deployment o => o.spec.map (·.template)
  | .deploymentConfig o => o.spec.template
  | _ => none

/-- What runs in the pods of a workload. -/
def podSpec? (r : Resource) : Option PodSpec := r.podTemplate?.bind (·.spec)

/-- Changes what runs in the pods of a workload; nothing changes where there is no such part. -/
def modifyPodSpec (f : PodSpec → PodSpec) : Resource → Resource
  | .deployment o =>
    .deployment { o with spec := o.spec.map fun spec =>
      { spec with template := { spec.template with spec := spec.template.spec.map f } } }
  | .deploymentConfig o =>
    .deploymentConfig { o with spec := { o.spec with
      template := o.spec.template.map fun template =>
        { template with spec := template.spec.map f } } }
  | r => r

/-- The replica count of a workload, if it states one. -/
def replicas? : Resource → Option Int32
  | .deployment o => o.spec.bind (·.replicas)
  | .deploymentConfig o => some o.spec.replicas
  | _ => none

/-- The workload with another replica count; other objects stay. -/
def withReplicas (replicas : Int32) : Resource → Resource
  | .deployment o =>
    .deployment { o with spec := some { o.spec.getD {} with replicas := some replicas } }
  | .deploymentConfig o => .deploymentConfig { o with spec := { o.spec with replicas } }
  | r => r

end Resource

end ApiPlatform
