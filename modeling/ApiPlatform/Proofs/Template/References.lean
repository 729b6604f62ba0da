import ApiPlatform.Resource.Labels
import ApiPlatform.Template.Bundle
/-!
# References between the objects of a bundle

Objects name each other by text: a variable names an entry of a Secret, a volume a claim, a service
the pods that it selects.  The needs of an object are these references, and a coherent bundle meets
each of them by one of its own objects.
-/

namespace ApiPlatform

/-- What an object counts on. -/
inductive Need where
  /-- A variable reads the entry of a Secret. -/
  | secretEntry (secret field : String)
  /-- A variable reads the entry of a ConfigMap. -/
  | configEntry (configMap field : String)
  /-- A volume holds a ConfigMap. -/
  | configMap (name : String)
  /-- A volume is claimed. -/
  | claim (name : String)
  /-- A service selects pods and names ports of their containers. -/
  | pods (selector : Labels) (ports : List String)
  /-- A route leads to a port of a service. -/
  | backend (target : RouteTarget) (port : Option PortRef)
  deriving DecidableEq

/-- What the source of a variable names. -/
def EnvSource.needs (s : EnvSource) : List Need :=
  (s.secretKeyRef.map fun k => .secretEntry k.name k.key).toList ++
    (s.configMapKeyRef.map fun k => .configEntry k.name k.key).toList

/-- What a variable names. -/
def EnvVar.needs (v : EnvVar) : List Need := (v.valueFrom.map (·.needs)).getD []

/-- What a volume names. -/
def Volume.needs (v : Volume) : List Need :=
  (v.persistentVolumeClaim.map .claim).toList ++
    (v.configMap.map fun c => .configMap c.name).toList

/-- The name of the port behind a port of a service. -/
def ServicePort.target? (p : ServicePort) : Option String :=
  match p.targetPort with
  | some (.named name) => some name
  | _ => none

namespace Resource

/-! ## What an object is made of -/

/-- The containers that run in the pods of a workload. -/
def mainContainers (r : Resource) : List Container := (r.podSpec?.map (·.containers)).getD []

/-- The containers that prepare the pods of a workload. -/
def initContainers (r : Resource) : List Container := (r.podSpec?.bind (·.initContainers)).getD []

/-- Every container of the pods. -/
def containers (r : Resource) : List Container := r.mainContainers ++ r.initContainers

/-- The pod that runs before a rollout. -/
def hook? : Resource → Option HookPod
  | .deploymentConfig d => d.spec.strategy.hookPod?
  | _ => none

/-- The variables of every container and of the hook. -/
def env (r : Resource) : List EnvVar :=
  r.containers.flatMap (·.env.getD []) ++ (r.hook?.map (·.env)).getD []

/-- The volumes of a pod. -/
def volumes (r : Resource) : List Volume := (r.podSpec?.bind (·.volumes)).getD []

/-- The volumes that containers mount. -/
def mounts (r : Resource) : List String :=
  r.containers.flatMap fun c => (c.volumeMounts.getD []).map (·.name)

/-- The volumes that the hook sees. -/
def hookVolumes (r : Resource) : List String := (r.hook?.map (·.volumes)).getD []

/-- The names of the ports that containers declare. -/
def portNames (r : Resource) : List String :=
  r.mainContainers.flatMap fun c => (c.ports.getD []).filterMap (·.name)

/-- The labels of the pods of a workload. -/
def podLabels (r : Resource) : Labels :=
  ((r.podTemplate?.bind (·.metadata)).bind (·.labels)).getD .empty

/-- The selector of a service. -/
def selector : Resource → Labels
  | .service s => (s.spec.bind (·.selector)).getD .empty
  | _ => .empty

/-- The ports of a service. -/
def servicePorts : Resource → List ServicePort
  | .service s => (s.spec.bind (·.ports)).getD []
  | _ => []

/-- The keys of a Secret or ConfigMap. -/
def fields : Resource → List String
  | .secret s => (s.data.getD .empty).keys ++ (s.stringData.getD .empty).keys
  | .configMap c => (c.data.getD .empty).keys
  | _ => []

/-- Whether an object carries a label. -/
def HasLabel (r : Resource) (key : String) : Prop := (r.labels.getD .empty).contains key

/-! ## What it counts on and what it is good for -/

/-- The names by which requests travel on. -/
def traffic (r : Resource) : List Need :=
  match r with
  | .service _ => [.pods r.selector (r.servicePorts.filterMap (·.target?))]
  | .route o => [.backend o.spec.target o.spec.port]
  | _ => []

/-- Every name by which an object refers to another one. -/
def needs (r : Resource) : List Need :=
  r.env.flatMap (·.needs) ++ r.volumes.flatMap (·.needs) ++ r.traffic

/-- Whether an object is what a reference asks for. -/
def Meets (r : Resource) : Need → Prop
  | .secretEntry name field => r.key = .template .secret name ∧ field ∈ r.fields
  | .configEntry name field => r.key = .template .configMap name ∧ field ∈ r.fields
  | .configMap name => r.key = .template .configMap name
  | .claim name => r.key = .template .persistentVolumeClaim name
  | .pods selector ports =>
    r.isWorkload ∧ (∀ e ∈ selector.entries, r.podLabels.get? e.1 = some e.2) ∧ ports ⊆ r.portNames
  | .backend target port =>
    target.kind = "Service" ∧ r.key = .template .service target.name ∧
      ∃ p ∈ r.servicePorts, ∃ name, p.name = some name ∧ port = some (.named name)

/-- What an object owes to itself: the two labels, and a volume behind every mount. -/
structure Sound (r : Resource) : Prop where
  app : r.HasLabel Labels.appKey
  component : r.HasLabel Labels.componentKey
  mounts : r.mounts ⊆ r.volumes.map (·.name)
  hookVolumes : r.hookVolumes ⊆ r.volumes.map (·.name)

end Resource

namespace Bundle

/-- Whether an object of the bundle is what a reference asks for. -/
def Offers (b : Bundle) (n : Need) : Prop := ∃ r ∈ b.objects.values, r.Meets n

/-- Every object is sound, and everything that it refers to is there. -/
structure Coherent (b : Bundle) : Prop where
  sound : ∀ r ∈ b.objects.values, r.Sound
  closed : ∀ r ∈ b.objects.values, ∀ n ∈ r.needs, b.Offers n

end Bundle

end ApiPlatform
