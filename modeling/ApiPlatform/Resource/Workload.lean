import ApiPlatform.Resource.Images
import ApiPlatform.Resource.Pod
/-!
# Workloads

The two kinds that run pods: Deployments, and DeploymentConfigs with their rollout strategy, the
hook that runs before a rollout and the triggers that start one.
-/

namespace ApiPlatform

/-- Replicas, selector and pods of a Deployment. -/
structure DeploymentSpec where
  replicas : Option Int32 := none
  selector : Option Labels := none
  template : PodTemplate := {}
  deriving DecidableEq, Inhabited

/-- How many replicas of a Deployment exist and are ready. -/
structure DeploymentStatus where
  readyReplicas : Option Int32 := none
  replicas : Option Int32 := none
  deriving DecidableEq, Inhabited

structure Deployment where
  metadata : ObjectMeta := {}
  spec : Option DeploymentSpec := none
  status : Option DeploymentStatus := none
  deriving DecidableEq, Inhabited

/-- A command run in a new pod, made like one of the workload's containers. -/
structure HookPod where
  command : List String := []
  env : List EnvVar := []
  containerName : String := ""
  volumes : List String := []
  deriving DecidableEq, Inhabited

/-- What runs at one point of a rollout. -/
structure LifecycleHook where
  failurePolicy : String := ""
  pod : Option HookPod := none
  deriving DecidableEq, Inhabited

/-- Timing of a rolling rollout, and the hook before it. -/
structure RollingParams where
  intervalSeconds : Option Int64 := none
  maxSurge : Option String := none
  maxUnavailable : Option String := none
  timeoutSeconds : Option Int64 := none
  updatePeriodSeconds : Option Int64 := none
  before : Option LifecycleHook := none
  deriving DecidableEq, Inhabited

/-- How a DeploymentConfig replaces its pods. -/
structure RolloutStrategy where
  type : String := ""
  rolling : Option RollingParams := none
  deriving DecidableEq, Inhabited

/-- The image whose change starts a rollout. -/
structure ImageChange where
  automatic : Bool := false
  containerNames : List String := []
  source : ObjectReference := {}
  deriving DecidableEq, Inhabited

/-- What starts a rollout. -/
structure RolloutTrigger where
  type : String := ""
  imageChange : Option ImageChange := none
  deriving DecidableEq, Inhabited

/-- Replicas, rollout and pods of a DeploymentConfig. -/
structure DeploymentConfigSpec where
  replicas : Int32 := 0
  selector : Labels := .empty
  strategy : RolloutStrategy := {}
  triggers : List RolloutTrigger := []
  template : Option PodTemplate := none
  deriving DecidableEq, Inhabited

/-- A workload with rollout hooks and triggers. -/
structure DeploymentConfig where
  metadata : ObjectMeta := {}
  spec : DeploymentConfigSpec := {}
  deriving DecidableEq, Inhabited

def DeploymentSpec.codec : Codec DeploymentSpec :=
  ((Fields.optional "replicas" .int32).and <|
    (Fields.defaulted "selector" (Fields.optional "matchLabels" Labels.codec).codec none).and <|
    Fields.defaulted "template" PodTemplate.codec {}).iso
    (fun (replicas, selector, template) => ⟨replicas, selector, template⟩)
    (fun s => (s.replicas, s.selector, s.template)) (fun _ => rfl) |>.codec

def DeploymentStatus.codec : Codec DeploymentStatus :=
  ((Fields.optional "readyReplicas" .int32).and <| Fields.optional "replicas" .int32).iso
    (fun (ready, replicas) => ⟨ready, replicas⟩)
    (fun s => (s.readyReplicas, s.replicas)) (fun _ => rfl) |>.codec

def Deployment.codec : Codec Deployment :=
  (((Fields.constant "apiVersion" "apps/v1").and (Fields.constant "kind" "Deployment")).and <|
    (Fields.defaulted "metadata" ObjectMeta.codec {}).and <|
    (Fields.optional "spec" DeploymentSpec.codec).and <|
    Fields.optional "status" DeploymentStatus.codec).iso
    (fun (_, metadata, spec, status) => ⟨metadata, spec, status⟩)
    (fun d => (((), ()), d.metadata, d.spec, d.status)) (fun _ => rfl) |>.codec

def HookPod.codec : Codec HookPod :=
  ((Fields.required "command" (.list .string)).and <|
    (Fields.omittedAs "env" (.list EnvVar.codec) []).and <|
    (Fields.required "containerName" .string).and <|
    Fields.omittedAs "volumes" (.list .string) []).iso
    (fun (command, env, container, volumes) => ⟨command, env, container, volumes⟩)
    (fun h => (h.command, h.env, h.containerName, h.volumes)) (fun _ => rfl) |>.recordCodec

def LifecycleHook.codec : Codec LifecycleHook :=
  ((Fields.required "failurePolicy" .string).and <|
    Fields.optional "execNewPod" HookPod.codec).iso
    (fun (policy, pod) => ⟨policy, pod⟩) (fun h => (h.failurePolicy, h.pod)) (fun _ => rfl)
    |>.recordCodec

def RollingParams.codec : Codec RollingParams :=
  ((Fields.optional "intervalSeconds" .int64).and <|
    (Fields.optional "maxSurge" .string).and <|
    (Fields.optional "maxUnavailable" .string).and <|
    (Fields.optional "timeoutSeconds" .int64).and <|
    (Fields.optional "updatePeriodSeconds" .int64).and <|
    Fields.optional "pre" LifecycleHook.codec).iso
    (fun (interval, surge, unavailable, timeout, period, before) =>
      ⟨interval, surge, unavailable, timeout, period, before⟩)
    (fun p => (p.intervalSeconds, p.maxSurge, p.maxUnavailable, p.timeoutSeconds,
      p.updatePeriodSeconds, p.before))
    (fun _ => rfl) |>.recordCodec

def RolloutStrategy.codec : Codec RolloutStrategy :=
  ((Fields.required "type" .string).and <|
    Fields.optional "rollingParams" RollingParams.codec).iso
    (fun (type, rolling) => ⟨type, rolling⟩) (fun s => (s.type, s.rolling)) (fun _ => rfl)
    |>.recordCodec

def ImageChange.codec : Codec ImageChange :=
  ((Fields.required "automatic" .bool).and <|
    (Fields.required "containerNames" (.list .string)).and <|
    Fields.required "from" ObjectReference.codec).iso
    (fun (automatic, names, source) => ⟨automatic, names, source⟩)
    (fun c => (c.automatic, c.containerNames, c.source)) (fun _ => rfl) |>.recordCodec

def RolloutTrigger.codec : Codec RolloutTrigger :=
  ((Fields.required "type" .string).and <|
    Fields.optional "imageChangeParams" ImageChange.codec).iso
    (fun (type, change) => ⟨type, change⟩) (fun t => (t.type, t.imageChange)) (fun _ => rfl)
    |>.recordCodec

def DeploymentConfigSpec.codec : Codec DeploymentConfigSpec :=
  ((Fields.required "replicas" .int32).and <|
    (Fields.omittedAs "selector" Labels.codec .empty).and <|
    (Fields.absentAs "strategy" RolloutStrategy.codec {}).and <|
    (Fields.omittedAs "triggers" (.list RolloutTrigger.codec) []).and <|
    Fields.optional "template" PodTemplate.codec).iso
    (fun (replicas, selector, strategy, triggers, template) =>
      ⟨replicas, selector, strategy, triggers, template⟩)
    (fun s => (s.replicas, s.selector, s.strategy, s.triggers, s.template)) (fun _ => rfl)
    |>.recordCodec

def DeploymentConfig.codec : Codec DeploymentConfig :=
  (((Fields.label "apiVersion" "apps.openshift.io/v1").and
      (Fields.label "kind" "DeploymentConfig")).and <|
    (Fields.required "metadata" ObjectMeta.codec).and <|
    Fields.required "spec" DeploymentConfigSpec.codec).iso
    (fun (_, metadata, spec) => ⟨metadata, spec⟩)
    (fun d => (((), ()), d.metadata, d.spec)) (fun _ => rfl) |>.codec

namespace RolloutStrategy

/-- Replaces pods a few at a time. -/
def stepwise : RolloutStrategy :=
  { type := "Rolling"
    rolling := some
      { intervalSeconds := some 1
        maxSurge := some "25%"
        maxUnavailable := some "25%"
        timeoutSeconds := some 600
        updatePeriodSeconds := some 1 } }

/-- Stops all pods before it starts new ones. -/
def recreate : RolloutStrategy := { type := "Recreate" }

/-- Replaces pods a few at a time after a hook has run. -/
def stepwiseAfter (hook : LifecycleHook) : RolloutStrategy :=
  { stepwise with rolling := stepwise.rolling.map ({ · with before := some hook }) }

/-- The pod that runs before a rollout. -/
def hookPod? (s : RolloutStrategy) : Option HookPod := do
  let params ← s.rolling
  let hook ← params.before
  hook.pod

/-- Changes the pod that runs before a rollout, if there is one. -/
def modifyHookPod (f : HookPod → HookPod) (s : RolloutStrategy) : RolloutStrategy :=
  { s with rolling := s.rolling.map fun params =>
      { params with before := params.before.map fun hook => { hook with pod := hook.pod.map f } } }

end RolloutStrategy

namespace RolloutTrigger

def configChange : RolloutTrigger := { type := "ConfigChange" }

/-- Rolls out when an image stream tag changes, with the new image in the named containers. -/
def onImageChange (containerNames : List String) (tag : String) : RolloutTrigger :=
  { type := "ImageChange"
    imageChange := some
      { automatic := true
        containerNames
        source := { kind := some "ImageStreamTag", name := some tag } } }

end RolloutTrigger

end ApiPlatform
