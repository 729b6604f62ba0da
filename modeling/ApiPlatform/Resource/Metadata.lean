import ApiPlatform.Json.Codec
/-!
# Object metadata

What every resource carries besides its own fields: identity, labels, annotations, version and
owners.
-/

namespace ApiPlatform

/-- Label and annotation sets. -/
abbrev Labels := SortedMap String String

/-- Names the object that controls the lifetime of another one. -/
structure OwnerReference where
  apiVersion : String := ""
  blockOwnerDeletion : Option Bool := none
  controller : Option Bool := none
  kind : String := ""
  name : String := ""
  uid : String := ""
  deriving DecidableEq, Inhabited

/-- Identity and bookkeeping of a resource. -/
structure ObjectMeta where
  annotations : Option Labels := none
  generateName : Option String := none
  labels : Option Labels := none
  name : Option String := none
  «namespace» : Option String := none
  ownerReferences : Option (List OwnerReference) := none
  resourceVersion : Option String := none
  uid : Option String := none
  deriving DecidableEq, Inhabited

def OwnerReference.codec : Codec OwnerReference :=
  ((Fields.defaulted "apiVersion" .string "").and <|
    (Fields.optional "blockOwnerDeletion" .bool).and <|
    (Fields.optional "controller" .bool).and <|
    (Fields.defaulted "kind" .string "").and <|
    (Fields.defaulted "name" .string "").and <|
    Fields.defaulted "uid" .string "").iso
    (fun (apiVersion, block, controller, kind, name, uid) =>
      ⟨apiVersion, block, controller, kind, name, uid⟩)
    (fun o => (o.apiVersion, o.blockOwnerDeletion, o.controller, o.kind, o.name, o.uid))
    (fun _ => rfl) |>.codec

def Labels.codec : Codec Labels := .map .string

def ObjectMeta.codec : Codec ObjectMeta :=
  ((Fields.optional "annotations" Labels.codec).and <|
    (Fields.optional "generateName" .string).and <|
    (Fields.optional "labels" Labels.codec).and <|
    (Fields.optional "name" .string).and <|
    (Fields.optional "namespace" .string).and <|
    (Fields.optional "ownerReferences" (.list OwnerReference.codec)).and <|
    (Fields.optional "resourceVersion" .string).and <|
    Fields.optional "uid" .string).iso
    (fun (annotations, generateName, labels, name, ns, owners, version, uid) =>
      ⟨annotations, generateName, labels, name, ns, owners, version, uid⟩)
    (fun m => (m.annotations, m.generateName, m.labels, m.name, m.namespace, m.ownerReferences,
      m.resourceVersion, m.uid))
    (fun _ => rfl) |>.codec

namespace ObjectMeta

/-- The name of an object; one that is still to be named goes by the pattern of its name. -/
def anyName (m : ObjectMeta) : String := (m.name.or m.generateName).getD ""

/-- Sets one annotation, over one of the same key. -/
def withAnnotation (m : ObjectMeta) (key value : String) : ObjectMeta :=
  { m with annotations := some ((m.annotations.getD .empty).insert key value) }

/-- Lays labels over the present ones. -/
def withLabels (m : ObjectMeta) (labels : Labels) : ObjectMeta :=
  { m with labels := some ((m.labels.getD .empty).union labels) }

/-- Makes `owner` the only owner. -/
def withOwner (m : ObjectMeta) (owner : OwnerReference) : ObjectMeta :=
  { m with ownerReferences := some [owner] }

end ObjectMeta

end ApiPlatform
