import ApiPlatform.Gateway.Resource
/-!
# The definition of the gateway resource

The document that makes a cluster accept gateways, with the schema that they have to keep to.
-/

namespace ApiPlatform

/-- What a value in a custom resource has to look like. -/
structure ValueSchema where
  /-- The type of the value. -/
  type : String
  title : Option String := none
  description : Option String := none
  /-- The number format of a number. -/
  format : Option String := none
  /-- The value that stands in for a missing one. -/
  fallback : Option Json := none
  /-- Whether the value may be `null`. -/
  nullable : Bool := false
  /-- The fields of an object. -/
  properties : List (String × Json) := []
  /-- The fields that an object has to have. -/
  required : List String := []

namespace ValueSchema

def textEntry (key : String) (value : Option String) : List (String × Json) :=
  (value.map fun s => (key, .str s)).toList

def toJson (s : ValueSchema) : Json :=
  .obj
    ((s.fallback.map fun j => ("default", j)).toList ++
      textEntry "description" s.description ++
      textEntry "format" s.format ++
      (if s.nullable then [("nullable", .bool true)] else []) ++
      (if s.properties.isEmpty then [] else [("properties", .obj s.properties)]) ++
      (if s.required.isEmpty then [] else [("required", .arr (s.required.map .str))]) ++
      textEntry "title" s.title ++
      [("type", .str s.type)])

/-- A text that is empty unless it is given. -/
def plainText : ValueSchema := { type := "string", fallback := some (.str "") }

end ValueSchema

def SecretKeyRef.schema : ValueSchema where
  type := "object"
  description := some "A key of a Secret in the namespace of the custom resource."
  properties :=
    [("key", ValueSchema.plainText.toJson), ("name", ValueSchema.plainText.toJson)]

def AdminPortalRef.schema : ValueSchema where
  type := "object"
  description := some "Where the admin portal URL and its access token are stored."
  properties :=
    [("accessTokenSecretKeyRef", SecretKeyRef.schema.toJson),
      ("urlSecretKeyRef", SecretKeyRef.schema.toJson)]
  required := ["accessTokenSecretKeyRef", "urlSecretKeyRef"]

namespace GatewaySpec

def environmentSecretSchema : ValueSchema where
  type := "object"
  description := some
    "Secret whose entries are added to the gateway environment. It must exist if set."
  nullable := true
  properties := [("name", ValueSchema.plainText.toJson)]

def exposedHostnameSchema : ValueSchema where
  type := "string"
  description := some
    "Host name the gateway is exposed on through an Ingress. No Ingress is created if unset."
  nullable := true

def imageSchema : ValueSchema := { type := "string", nullable := true }

def replicasSchema : ValueSchema where
  type := "integer"
  description := some "Number of gateway pods. Defaults to 1."
  format := some "int64"
  nullable := true

def serviceAccountSchema : ValueSchema where
  type := "string"
  description := some "Service account the gateway pods run as. Defaults to \x60default\x60."
  nullable := true

def schema : ValueSchema where
  type := "object"
  description := some
    "A standalone API gateway fetching its configuration from an admin portal."
  properties :=
    [("adminPortalCredentialsRef", AdminPortalRef.schema.toJson),
      ("environmentConfigurationSecretRef", environmentSecretSchema.toJson),
      ("exposedHostname", exposedHostnameSchema.toJson),
      ("image", imageSchema.toJson),
      ("replicas", replicasSchema.toJson),
      ("serviceAccount", serviceAccountSchema.toJson)]
  required := ["adminPortalCredentialsRef"]

end GatewaySpec

namespace Gateway

def schema : ValueSchema where
  type := "object"
  title := some kindName
  description := some
    "Auto-generated derived type for APIcastSpec via \x60CustomResource\x60"
  properties := [("spec", GatewaySpec.schema.toJson)]
  required := ["spec"]

/-- The names under which a cluster knows gateways. -/
def resourceNames : Json :=
  .obj
    [("categories", .arr []), ("kind", .str kindName), ("plural", .str "apicasts"),
      ("shortNames", .arr [.str "apicast"]), ("singular", .str "apicast")]

/-- The only version of the resource. -/
def versionEntry : Json :=
  .obj
    [("additionalPrinterColumns", .arr []), ("name", .str version),
      ("schema", .obj [("openAPIV3Schema", schema.toJson)]), ("served", .bool true),
      ("storage", .bool true), ("subresources", .obj [])]

def definition : Json :=
  .obj
    [("apiVersion", .str "apiextensions.k8s.io/v1"), ("kind", .str "CustomResourceDefinition"),
      ("metadata", .obj [("name", .str ("apicasts." ++ group))]),
      ("spec", .obj
        [("group", .str group), ("names", resourceNames), ("scope", .str "Namespaced"),
          ("versions", .arr [versionEntry])])]

end Gateway

end ApiPlatform
