import ApiPlatform.Resource.Composition
import ApiPlatform.Resource.Object
/-!
# Parts of components

The objects that components are made of.  Every object is named and labelled here, and the pods of
a workload always carry the label that its services select on.
-/

namespace ApiPlatform.Catalog

/-- Metadata of an object that belongs to no namespace. -/
def named (name : String) (labels : Labels) : ObjectMeta :=
  { name := some name, labels := some labels }

def secret (name : String) (labels : Labels) (entries : List (String × String)) : Resource :=
  .secret
    { metadata := named name labels
      stringData := some (.ofList entries)
      type := some "Opaque" }

def configMap (name : String) (labels : Labels) (entries : List (String × String)) : Resource :=
  .configMap { metadata := named name labels, data := some (.ofList entries) }

/-- A port of a service, and the name of the container port behind it. -/
structure OfferedPort where
  name : String
  port : Int32
  target : String

/-- A service for the pods of a workload. -/
def service (name : String) (labels : Labels) (workload : String) (ports : List OfferedPort) :
    Resource :=
  .service
    { metadata := named name labels
      spec := some
        { ports := some (ports.map fun p =>
            { name := some p.name
              port := p.port
              protocol := some "TCP"
              targetPort := some (.named p.target) })
          selector := some (Labels.workloadSelector workload) } }

def volumeClaim (name : String) (labels : Labels) (accessMode size : String)
    (storageClass : Option String) : Resource :=
  .persistentVolumeClaim
    { metadata := named name labels
      spec := some
        { accessModes := some [accessMode]
          resources := some (some (.ofList [("storage", size)]))
          storageClassName := storageClass } }

def route (name : String) (labels : Labels) (spec : RouteSpec) : Resource :=
  .route { metadata := named name labels, spec }

/-- A workload: what runs in its pods, how many of them there are, and what starts a rollout. -/
structure WorkloadPlan where
  name : String
  labels : Labels
  replicas : Int32 := 1
  strategy : RolloutStrategy := .stepwise
  /-- The containers that take a changed image, and the image stream tag to watch. -/
  watched : List String × String
  pod : PodPlan

def workload (p : WorkloadPlan) : Resource :=
  .deploymentConfig
    { metadata := named p.name p.labels
      spec :=
        { replicas := p.replicas
          selector := Labels.workloadSelector p.name
          strategy := p.strategy
          triggers := [.configChange, .onImageChange p.watched.1 p.watched.2]
          template := some { p.pod with labels := Labels.pod p.labels p.name }.template } }

/-- The account that the platform's pods run under. -/
def serviceAccountName : String := "amp"

def pod (containers : List Container) (volumes : List Volume) : PodPlan :=
  { containers, volumes, serviceAccountName := some serviceAccountName }

/-- A container that keeps an image that is already present. -/
def container (name image : String) : Container :=
  { name, image := some image, imagePullPolicy := some "IfNotPresent" }

end ApiPlatform.Catalog
