import ApiPlatform.Resource.Metadata
/-!
# Pods

The pod half of a workload: containers with their environment, ports, probes and mounts, and the
volumes that they mount.
-/

namespace ApiPlatform

/-- A port given by number or by the name that a container or service declares. -/
inductive PortRef where
  | number (n : Int32)
  | named (name : String)
  deriving DecidableEq

instance : Inhabited PortRef := ⟨.number 0⟩

/-- A whole number or a string, each staying what it is. -/
def PortRef.codec : Codec PortRef where
  encode
    | .number n => Codec.int32.encode n
    | .named s => Codec.string.encode s
  decode
    | .str s => some (.named s)
    | j => (Codec.int32.decode j).map .number
  decode_encode p := by
    cases p with
    | number n =>
      have := Codec.int32.decode_encode n
      simp_all [Codec.int32]
    | named s => rfl
  encode_ne_null p := by
    cases p with
    | number n => exact Codec.int32.encode_ne_null n
    | named s => exact Codec.string.encode_ne_null s

/-- One entry of a Secret or ConfigMap. -/
structure KeySelector where
  key : String := ""
  name : String := ""
  deriving DecidableEq, Inhabited

/-- Where the value of a variable is read from. -/
structure EnvSource where
  configMapKeyRef : Option KeySelector := none
  secretKeyRef : Option KeySelector := none
  deriving DecidableEq, Inhabited

structure EnvVar where
  name : String := ""
  value : Option String := none
  valueFrom : Option EnvSource := none
  deriving DecidableEq, Inhabited

/-- A Secret or ConfigMap by name, and whether it may be missing. -/
structure SourceRef where
  name : String := ""
  optional : Option Bool := none
  deriving DecidableEq, Inhabited

/-- A Secret or ConfigMap all of whose entries become variables. -/
structure EnvFrom where
  configMapRef : Option SourceRef := none
  namePrefix : Option String := none
  secretRef : Option SourceRef := none
  deriving DecidableEq, Inhabited

/-- A port that a container listens on. -/
structure ContainerPort where
  containerPort : Int32 := 0
  name : Option String := none
  protocol : Option String := none
  deriving DecidableEq, Inhabited

/-- Quantities by resource name. -/
abbrev Quantities := SortedMap String String

/-- What a container asks for and may use at most. -/
structure ResourceRequirements where
  limits : Option Quantities := none
  requests : Option Quantities := none
  deriving DecidableEq, Inhabited

/-- A volume seen at a path of a container. -/
structure VolumeMount where
  mountPath : String := ""
  name : String := ""
  deriving DecidableEq, Inhabited

/-- A command run inside the container. -/
structure ExecAction where
  command : Option (List String) := none
  deriving DecidableEq, Inhabited

/-- A GET request to the container. -/
structure HttpGetAction where
  path : Option String := none
  port : PortRef := default
  scheme : Option String := none
  deriving DecidableEq, Inhabited

/-- A connection to a port of the container. -/
structure TcpSocketAction where
  port : PortRef := default
  deriving DecidableEq, Inhabited

/-- A health check of a container. -/
structure Probe where
  exec : Option ExecAction := none
  failureThreshold : Option Int32 := none
  httpGet : Option HttpGetAction := none
  initialDelaySeconds : Option Int32 := none
  periodSeconds : Option Int32 := none
  tcpSocket : Option TcpSocketAction := none
  timeoutSeconds : Option Int32 := none
  deriving DecidableEq, Inhabited

structure Container where
  args : Option (List String) := none
  command : Option (List String) := none
  env : Option (List EnvVar) := none
  envFrom : Option (List EnvFrom) := none
  image : Option String := none
  imagePullPolicy : Option String := none
  livenessProbe : Option Probe := none
  name : String := ""
  ports : Option (List ContainerPort) := none
  readinessProbe : Option Probe := none
  resources : Option ResourceRequirements := none
  volumeMounts : Option (List VolumeMount) := none
  deriving DecidableEq, Inhabited

/-- A key of a ConfigMap and the file that it becomes. -/
structure KeyToPath where
  key : String := ""
  path : String := ""
  deriving DecidableEq, Inhabited

/-- A ConfigMap as files. -/
structure ConfigMapVolume where
  items : Option (List KeyToPath) := none
  name : String := ""
  deriving DecidableEq, Inhabited

structure Volume where
  configMap : Option ConfigMapVolume := none
  emptyDir : Option Unit := none
  name : String := ""
  persistentVolumeClaim : Option String := none
  deriving DecidableEq, Inhabited

structure PodSpec where
  containers : List Container := []
  initContainers : Option (List Container) := none
  serviceAccountName : Option String := none
  terminationGracePeriodSeconds : Option Int64 := none
  volumes : Option (List Volume) := none
  deriving DecidableEq, Inhabited

/-- The pods that a workload creates. -/
structure PodTemplate where
  metadata : Option ObjectMeta := none
  spec : Option PodSpec := none
  deriving DecidableEq, Inhabited

def KeySelector.codec : Codec KeySelector :=
  ((Fields.defaulted "key" .string "").and <| Fields.defaulted "name" .string "").iso
    (fun (key, name) => ⟨key, name⟩) (fun s => (s.key, s.name)) (fun _ => rfl) |>.codec

def EnvSource.codec : Codec EnvSource :=
  ((Fields.optional "configMapKeyRef" KeySelector.codec).and <|
    Fields.optional "secretKeyRef" KeySelector.codec).iso
    (fun (configMap, secret) => ⟨configMap, secret⟩)
    (fun s => (s.configMapKeyRef, s.secretKeyRef)) (fun _ => rfl) |>.codec

def EnvVar.codec : Codec EnvVar :=
  ((Fields.defaulted "name" .string "").and <|
    (Fields.optional "value" .string).and <|
    Fields.optional "valueFrom" EnvSource.codec).iso
    (fun (name, value, source) => ⟨name, value, source⟩)
    (fun v => (v.name, v.value, v.valueFrom)) (fun _ => rfl) |>.codec

def SourceRef.codec : Codec SourceRef :=
  ((Fields.defaulted "name" .string "").and <| Fields.optional "optional" .bool).iso
    (fun (name, optional) => ⟨name, optional⟩) (fun r => (r.name, r.optional)) (fun _ => rfl)
    |>.codec

def EnvFrom.codec : Codec EnvFrom :=
  ((Fields.optional "configMapRef" SourceRef.codec).and <|
    (Fields.optional "prefix" .string).and <|
    Fields.optional "secretRef" SourceRef.codec).iso
    (fun (configMap, namePrefix, secret) => ⟨configMap, namePrefix, secret⟩)
    (fun s => (s.configMapRef, s.namePrefix, s.secretRef)) (fun _ => rfl) |>.codec

def ContainerPort.codec : Codec ContainerPort :=
  ((Fields.defaulted "containerPort" .int32 0).and <|
    (Fields.optional "name" .string).and <|
    Fields.optional "protocol" .string).iso
    (fun (port, name, protocol) => ⟨port, name, protocol⟩)
    (fun p => (p.containerPort, p.name, p.protocol)) (fun _ => rfl) |>.codec

def ResourceRequirements.codec : Codec ResourceRequirements :=
  ((Fields.optional "limits" (.map .string)).and <|
    Fields.optional "requests" (.map .string)).iso
    (fun (limits, requests) => ⟨limits, requests⟩)
    (fun r => (r.limits, r.requests)) (fun _ => rfl) |>.codec

def VolumeMount.codec : Codec VolumeMount :=
  ((Fields.defaulted "mountPath" .string "").and <| Fields.defaulted "name" .string "").iso
    (fun (path, name) => ⟨path, name⟩) (fun m => (m.mountPath, m.name)) (fun _ => rfl) |>.codec

def ExecAction.codec : Codec ExecAction :=
  (Fields.optional "command" (.list .string)).iso (fun command => ⟨command⟩) (·.command)
    (fun _ => rfl) |>.codec

def HttpGetAction.codec : Codec HttpGetAction :=
  ((Fields.optional "path" .string).and <|
    (Fields.defaulted "port" PortRef.codec default).and <|
    Fields.optional "scheme" .string).iso
    (fun (path, port, scheme) => ⟨path, port, scheme⟩)
    (fun a => (a.path, a.port, a.scheme)) (fun _ => rfl) |>.codec

def TcpSocketAction.codec : Codec TcpSocketAction :=
  (Fields.defaulted "port" PortRef.codec default).iso (fun port => ⟨port⟩) (·.port)
    (fun _ => rfl) |>.codec

def Probe.codec : Codec Probe :=
  ((Fields.optional "exec" ExecAction.codec).and <|
    (Fields.optional "failureThreshold" .int32).and <|
    (Fields.optional "httpGet" HttpGetAction.codec).and <|
    (Fields.optional "initialDelaySeconds" .int32).and <|
    (Fields.optional "periodSeconds" .int32).and <|
    (Fields.optional "tcpSocket" TcpSocketAction.codec).and <|
    Fields.optional "timeoutSeconds" .int32).iso
    (fun (exec, failures, http, delay, period, tcp, timeout) =>
      ⟨exec, failures, http, delay, period, tcp, timeout⟩)
    (fun p => (p.exec, p.failureThreshold, p.httpGet, p.initialDelaySeconds, p.periodSeconds,
      p.tcpSocket, p.timeoutSeconds))
    (fun _ => rfl) |>.codec

def Container.codec : Codec Container :=
  ((Fields.optional "args" (.list .string)).and <|
    (Fields.optional "command" (.list .string)).and <|
    (Fields.optional "env" (.list EnvVar.codec)).and <|
    (Fields.optional "envFrom" (.list EnvFrom.codec)).and <|
    (Fields.optional "image" .string).and <|
    (Fields.optional "imagePullPolicy" .string).and <|
    (Fields.optional "livenessProbe" Probe.codec).and <|
    (Fields.defaulted "name" .string "").and <|
    (Fields.optional "ports" (.list ContainerPort.codec)).and <|
    (Fields.optional "readinessProbe" Probe.codec).and <|
    (Fields.optional "resources" ResourceRequirements.codec).and <|
    Fields.optional "volumeMounts" (.list VolumeMount.codec)).iso
    (fun (args, command, env, envFrom, image, pullPolicy, liveness, name, ports, readiness,
        resources, mounts) =>
      ⟨args, command, env, envFrom, image, pullPolicy, liveness, name, ports, readiness,
        resources, mounts⟩)
    (fun c => (c.args, c.command, c.env, c.envFrom, c.image, c.imagePullPolicy, c.livenessProbe,
      c.name, c.ports, c.readinessProbe, c.resources, c.volumeMounts))
    (fun _ => rfl) |>.codec

def KeyToPath.codec : Codec KeyToPath :=
  ((Fields.defaulted "key" .string "").and <| Fields.defaulted "path" .string "").iso
    (fun (key, path) => ⟨key, path⟩) (fun k => (k.key, k.path)) (fun _ => rfl) |>.codec

def ConfigMapVolume.codec : Codec ConfigMapVolume :=
  ((Fields.optional "items" (.list KeyToPath.codec)).and <|
    Fields.defaulted "name" .string "").iso
    (fun (items, name) => ⟨items, name⟩) (fun v => (v.items, v.name)) (fun _ => rfl) |>.codec

def Volume.codec : Codec Volume :=
  ((Fields.optional "configMap" ConfigMapVolume.codec).and <|
    (Fields.optional "emptyDir" Fields.nothing.codec).and <|
    (Fields.defaulted "name" .string "").and <|
    Fields.optional "persistentVolumeClaim" (Fields.defaulted "claimName" .string "").codec).iso
    (fun (configMap, emptyDir, name, claim) => ⟨configMap, emptyDir, name, claim⟩)
    (fun v => (v.configMap, v.emptyDir, v.name, v.persistentVolumeClaim)) (fun _ => rfl) |>.codec

def PodSpec.codec : Codec PodSpec :=
  ((Fields.defaulted "containers" (.list Container.codec) []).and <|
    (Fields.optional "initContainers" (.list Container.codec)).and <|
    (Fields.optional "serviceAccountName" .string).and <|
    (Fields.optional "terminationGracePeriodSeconds" .int64).and <|
    Fields.optional "volumes" (.list Volume.codec)).iso
    (fun (containers, initContainers, account, grace, volumes) =>
      ⟨containers, initContainers, account, grace, volumes⟩)
    (fun s => (s.containers, s.initContainers, s.serviceAccountName,
      s.terminationGracePeriodSeconds, s.volumes))
    (fun _ => rfl) |>.codec

def PodTemplate.codec : Codec PodTemplate :=
  ((Fields.optional "metadata" ObjectMeta.codec).and <|
    Fields.optional "spec" PodSpec.codec).iso
    (fun (metadata, spec) => ⟨metadata, spec⟩)
    (fun t => (t.metadata, t.spec)) (fun _ => rfl) |>.codec

end ApiPlatform
