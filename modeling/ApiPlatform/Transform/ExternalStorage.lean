import ApiPlatform.Catalog.External
import ApiPlatform.Resource.Composition
import ApiPlatform.Transform.Chain
/-!
# External storage

Replaces shared volumes by object storage.  For each declared storage the settings go into its
environment ConfigMap, the volume and its mounts leave the sharing workloads and their hooks, the
workloads and hooks read the settings and credentials, and the claim and its parameter go.
-/

namespace ApiPlatform.ExternalStorage

open Catalog (ObjectStorageOptions)

/-- Setting and variable: the kind of storage. -/
def storageKey : String := "FILE_UPLOAD_STORAGE"

/-- Setting and variable: the bucket. -/
def bucketKey : String := "AWS_BUCKET"

/-- Setting and variable: the region. -/
def regionKey : String := "AWS_REGION"

/-- Variable: the identifier of the access key. -/
def accessKeyIdKey : String := "AWS_ACCESS_KEY_ID"

/-- Variable: the access key. -/
def secretAccessKeyKey : String := "AWS_SECRET_ACCESS_KEY"

/-- The variables of workloads that use object storage. -/
def env (o : ObjectStorageOptions) (s : SharedStorage) : List EnvVar :=
  [.ofConfigMap storageKey s.environmentConfigMap storageKey,
    .ofSecret accessKeyIdKey o.credentialsSecret Catalog.accessKeyIdField,
    .ofSecret secretAccessKeyKey o.credentialsSecret Catalog.secretAccessKeyField,
    .ofConfigMap bucketKey s.environmentConfigMap bucketKey,
    .ofConfigMap regionKey s.environmentConfigMap regionKey]

/-- The ConfigMap with the settings; other objects stay. -/
def writeSettings (o : ObjectStorageOptions) : Resource → Resource
  | .configMap c =>
    .configMap { c with data := some ((c.data.getD .empty).insertMany
      [(storageKey, o.fileUploadStorage), (bucketKey, o.bucket), (regionKey, o.region)]) }
  | r => r

/-- The hook without the volume and with the variables. -/
def moveHook (o : ObjectStorageOptions) (s : SharedStorage) (h : HookPod) : HookPod :=
  { h with volumes := h.volumes.filter (· ≠ s.volume), env := h.env ++ env o s }

/-- The container without mounts of the volume. -/
def unmount (s : SharedStorage) (c : Container) : Container :=
  { c with volumeMounts := c.volumeMounts.map (·.filter (·.name ≠ s.volume)) }

/-- The pod without the volume and with the variables; containers that only prepare the pod get
no variables. -/
def movePod (o : ObjectStorageOptions) (s : SharedStorage) (p : PodSpec) : PodSpec :=
  { p with
    volumes := p.volumes.map (·.filter (·.name ≠ s.volume))
    containers := p.containers.map fun c => (unmount s c).addEnv (env o s)
    initContainers := p.initContainers.map (·.map (unmount s)) }

/-- Moves the hook of a workload that has one. -/
def moveStrategy (o : ObjectStorageOptions) (s : SharedStorage) : Resource → Resource
  | .deploymentConfig d =>
    .deploymentConfig
      { d with spec := { d.spec with strategy := d.spec.strategy.modifyHookPod (moveHook o s) } }
  | r => r

/-- Moves a workload that shares the volume; other objects stay. -/
def moveWorkload (o : ObjectStorageOptions) (s : SharedStorage) (r : Resource) : Resource :=
  if r.isWorkload ∧ s.workloads.contains r.name then
    (moveStrategy o s r).modifyPodSpec (movePod o s)
  else r

/-- Whether the environment ConfigMap of a storage is in the bundle. -/
def hasEnvironment (s : SharedStorage) (b : Bundle) : Bool :=
  match b.object? (.template .configMap s.environmentConfigMap) with
  | some (.configMap _) => true
  | _ => false

/-- Drops the parameter that configured the claim, if one is declared. -/
def dropParameter (s : SharedStorage) (b : Bundle) : Bundle :=
  match s.parameter with
  | some name => b.removeParameter name
  | none => b

def replace (o : ObjectStorageOptions) (b : Bundle) (s : SharedStorage) :
    Except TransformError Bundle :=
  if hasEnvironment s b then
    let b := b.modifyObject (.template .configMap s.environmentConfigMap) (writeSettings o)
    let b := b.mapObjects (moveWorkload o s)
    .ok (dropParameter s (b.removeObject (.template .persistentVolumeClaim s.claim)))
  else .error (.missingEnvironmentConfigMap s.volume s.environmentConfigMap)

/-- Replaces storages in declaration order; the first that fails decides. -/
def replaceAll (o : ObjectStorageOptions) : List SharedStorage → Bundle →
    Except TransformError Bundle
  | [], b => .ok b
  | s :: rest, b => do
    let b ← replace o b s
    replaceAll o rest b

def transform (o : ObjectStorageOptions) : Transform :=
  { name := "external-storage"
    stage := .externalStorage
    run := fun b => replaceAll o b.capabilities.sharedStorage b }

end ApiPlatform.ExternalStorage
