import ApiPlatform.Resource.Labels
import ApiPlatform.Resource.Pod
/-!
# Composing pods

The steps by which a pod is put together: variables, ports, mounts, quantities, probes and
volumes.  Each step says what it adds and leaves the rest as it was.
-/

namespace ApiPlatform

namespace EnvVar

/-- A variable with a fixed value. -/
def literal (name value : String) : EnvVar := { name, value := some value }

/-- A variable that holds an entry of a Secret. -/
def ofSecret (name secret key : String) : EnvVar :=
  { name, valueFrom := some { secretKeyRef := some { key, name := secret } } }

/-- A variable that holds an entry of a ConfigMap. -/
def ofConfigMap (name configMap key : String) : EnvVar :=
  { name, valueFrom := some { configMapKeyRef := some { key, name := configMap } } }

end EnvVar

/-- Every entry of a Secret as a variable. -/
def EnvFrom.ofSecret (secret : String) : EnvFrom := { secretRef := some { name := secret } }

namespace Container

def addEnv (c : Container) (vars : List EnvVar) : Container :=
  { c with env := some (c.env.getD [] ++ vars) }

def addEnvFrom (c : Container) (source : EnvFrom) : Container :=
  { c with envFrom := some (c.envFrom.getD [] ++ [source]) }

def addPort (c : Container) (name : String) (port : Int32) : Container :=
  { c with ports := some (c.ports.getD [] ++
      [{ containerPort := port, name := some name, protocol := some "TCP" }]) }

def addMount (c : Container) (volume path : String) : Container :=
  { c with
    volumeMounts := some (c.volumeMounts.getD [] ++ [{ mountPath := path, name := volume }]) }

end Container

namespace ResourceRequirements

def cpu : String := "cpu"

def memory : String := "memory"

/-- Asks for a quantity of a resource. -/
def request (r : ResourceRequirements) (resource quantity : String) : ResourceRequirements :=
  { r with requests := some ((r.requests.getD .empty).insert resource quantity) }

/-- Allows at most a quantity of a resource. -/
def limit (r : ResourceRequirements) (resource quantity : String) : ResourceRequirements :=
  { r with limits := some ((r.limits.getD .empty).insert resource quantity) }

/-- Limits and requests of processor time and memory. -/
def of (cpuLimit memoryLimit cpuRequest memoryRequest : String) : ResourceRequirements :=
  ((((({} : ResourceRequirements).limit cpu cpuLimit).limit memory memoryLimit).request
    cpu cpuRequest).request memory memoryRequest)

end ResourceRequirements

namespace Probe

def running (command : List String) : Probe := { exec := some { command := some command } }

/-- Asks for a path over HTTP. -/
def getting (port : PortRef) (path : String) : Probe :=
  { httpGet := some { path := some path, port, scheme := some "HTTP" } }

def connecting (port : PortRef) : Probe := { tcpSocket := some { port } }

end Probe

namespace Volume

def claimed (name claim : String) : Volume := { name, persistentVolumeClaim := some claim }

/-- Keys of a ConfigMap, each as a file of the same name; no key at all stands for all of them. -/
def ofConfigMap (name configMap : String) (keys : List String) : Volume :=
  { name
    configMap := some
      { name := configMap
        items := if keys.isEmpty then none else some (keys.map fun key => { key, path := key }) } }

/-- Scratch space that lives as long as the pod. -/
def scratch (name : String) : Volume := { name, emptyDir := some () }

end Volume

/-- The parts of a pod template. -/
structure PodPlan where
  labels : Labels := .empty
  containers : List Container := []
  volumes : List Volume := []
  serviceAccountName : Option String := none
  terminationGracePeriodSeconds : Option Int64 := none
  deriving Inhabited

/-- The pod template of a plan; a plan without volumes states none. -/
def PodPlan.template (p : PodPlan) : PodTemplate :=
  { metadata := some { labels := some p.labels }
    spec := some
      { containers := p.containers
        volumes := if p.volumes.isEmpty then none else some p.volumes
        serviceAccountName := p.serviceAccountName
        terminationGracePeriodSeconds := p.terminationGracePeriodSeconds } }

end ApiPlatform
