import ApiPlatform.Resource.Metadata
import ApiPlatform.Text.Base64
/-!
# Settings, accounts and claims

The resources that hold configuration for workloads but run nothing: Secrets, ConfigMaps, service
accounts and volume claims.
-/

namespace ApiPlatform

/-- Secret values, each as bytes or as text. -/
structure Secret where
  data : Option (SortedMap String Bytes) := none
  immutable : Option Bool := none
  metadata : ObjectMeta := {}
  stringData : Option (SortedMap String String) := none
  type : Option String := none
  deriving DecidableEq, Inhabited

/-- Plain configuration values. -/
structure ConfigMap where
  binaryData : Option (SortedMap String Bytes) := none
  data : Option (SortedMap String String) := none
  immutable : Option Bool := none
  metadata : ObjectMeta := {}
  deriving DecidableEq, Inhabited

/-- An account that pods run under. -/
structure ServiceAccount where
  imagePullSecrets : Option (List String) := none
  metadata : ObjectMeta := {}
  deriving DecidableEq, Inhabited

/-- What a claim asks for. -/
structure VolumeClaimSpec where
  accessModes : Option (List String) := none
  resources : Option (Option (SortedMap String String)) := none
  storageClassName : Option String := none
  deriving DecidableEq, Inhabited

/-- A claim on storage. -/
structure PersistentVolumeClaim where
  metadata : ObjectMeta := {}
  spec : Option VolumeClaimSpec := none
  deriving DecidableEq, Inhabited

/-- Byte strings, written in base64. -/
def Codec.bytes : Codec Bytes :=
  Codec.string.refine Base64.decode Base64.encode Base64.decode_encode

def Secret.codec : Codec Secret :=
  (((Fields.constant "apiVersion" "v1").and (Fields.constant "kind" "Secret")).and <|
    (Fields.optional "data" (.map .bytes)).and <|
    (Fields.optional "immutable" .bool).and <|
    (Fields.defaulted "metadata" ObjectMeta.codec {}).and <|
    (Fields.optional "stringData" (.map .string)).and <|
    Fields.optional "type" .string).iso
    (fun (_, data, immutable, metadata, stringData, type) =>
      ⟨data, immutable, metadata, stringData, type⟩)
    (fun s => (((), ()), s.data, s.immutable, s.metadata, s.stringData, s.type)) (fun _ => rfl)
    |>.codec

def ConfigMap.codec : Codec ConfigMap :=
  (((Fields.constant "apiVersion" "v1").and (Fields.constant "kind" "ConfigMap")).and <|
    (Fields.optional "binaryData" (.map .bytes)).and <|
    (Fields.optional "data" (.map .string)).and <|
    (Fields.optional "immutable" .bool).and <|
    Fields.defaulted "metadata" ObjectMeta.codec {}).iso
    (fun (_, binaryData, data, immutable, metadata) => ⟨binaryData, data, immutable, metadata⟩)
    (fun c => (((), ()), c.binaryData, c.data, c.immutable, c.metadata)) (fun _ => rfl) |>.codec

def ServiceAccount.codec : Codec ServiceAccount :=
  (((Fields.constant "apiVersion" "v1").and (Fields.constant "kind" "ServiceAccount")).and <|
    (Fields.optional "imagePullSecrets" (.list (Fields.defaulted "name" .string "").codec)).and <|
    Fields.defaulted "metadata" ObjectMeta.codec {}).iso
    (fun (_, secrets, metadata) => ⟨secrets, metadata⟩)
    (fun a => (((), ()), a.imagePullSecrets, a.metadata)) (fun _ => rfl) |>.codec

def VolumeClaimSpec.codec : Codec VolumeClaimSpec :=
  ((Fields.optional "accessModes" (.list .string)).and <|
    (Fields.optional "resources" (Fields.optional "requests" (.map .string)).codec).and <|
    Fields.optional "storageClassName" .string).iso
    (fun (modes, resources, storageClass) => ⟨modes, resources, storageClass⟩)
    (fun s => (s.accessModes, s.resources, s.storageClassName)) (fun _ => rfl) |>.codec

def PersistentVolumeClaim.codec : Codec PersistentVolumeClaim :=
  (((Fields.constant "apiVersion" "v1").and
      (Fields.constant "kind" "PersistentVolumeClaim")).and <|
    (Fields.defaulted "metadata" ObjectMeta.codec {}).and <|
    Fields.optional "spec" VolumeClaimSpec.codec).iso
    (fun (_, metadata, spec) => ⟨metadata, spec⟩)
    (fun c => (((), ()), c.metadata, c.spec)) (fun _ => rfl) |>.codec

end ApiPlatform
