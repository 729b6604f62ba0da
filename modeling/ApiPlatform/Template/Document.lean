import ApiPlatform.Template.Bundle
/-!
# Template documents

A bundle as one document that a cluster can process itself.
-/

namespace ApiPlatform

/-- A named bundle, ready to be written. -/
structure Template where
  name : String
  annotations : Labels := .empty
  objects : List Resource := []
  parameters : List Parameter := []
  deriving DecidableEq

namespace Template

def apiVersion : String := "template.openshift.io/v1"

def kindName : String := "Template"

/-- The metadata of a template; without annotations it states none. -/
def metadata (t : Template) : ObjectMeta :=
  { name := some t.name
    annotations := if t.annotations.isEmpty then none else some t.annotations }

def toJson (t : Template) : Json :=
  .obj
    [("apiVersion", .str apiVersion),
      ("kind", .str kindName),
      ("metadata", ObjectMeta.codec.encode t.metadata),
      ("objects", .arr (t.objects.map Resource.toJson)),
      ("parameters", .arr (t.parameters.map Parameter.codec.encode))]

end Template

def Bundle.toTemplate (b : Bundle) (name : String) (annotations : Labels) : Template :=
  { name, annotations, objects := b.objects.values, parameters := b.parameters.values }

end ApiPlatform
