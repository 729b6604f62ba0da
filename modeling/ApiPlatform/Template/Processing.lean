import ApiPlatform.Json.Sorted
import ApiPlatform.Resource.Dynamic
import ApiPlatform.Template.Bundle
/-!
# Processing

Resolves the parameters of a bundle in declaration order and puts their values into the objects.
Only the strings of an object change; references to names that are no parameters stay.  What comes
out is read back as an object of any kind.
-/

namespace ApiPlatform

/-- A bundle with every parameter resolved. -/
structure Processed where
  values : SortedMap String String
  items : List DynamicObject

def Processed.objects (p : Processed) : List Json := p.items.map DynamicObject.toJson

/-- The entries that stand first in a written object. -/
def leadingKeys : List String := ["apiVersion", "kind", "metadata"]

/-- An object as it is written: its version, kind and metadata, then the rest in key order. -/
def documentOrder : Json → Json
  | .obj entries =>
    match Json.sorted (.obj entries) with
    | .obj entries =>
      .obj
        (leadingKeys.flatMap (fun key => entries.filter (·.1 = key)) ++
          entries.filter fun e => !leadingKeys.contains e.1)
    | j => j
  | j => j

/-- The objects as they are written. -/
def Processed.documents (p : Processed) : List Json := p.objects.map documentOrder

namespace Bundle

/-- Resolves parameters in order; the first that fails decides. -/
def resolveParameters (supplied : SortedMap String String) :
    List Parameter → Draws → Except BundleError (List (String × String))
  | [], _ => .ok []
  | p :: rest, d => do
    let (value, d) ← p.resolve (supplied.get? p.name) d
    let values ← resolveParameters supplied rest d
    .ok ((p.name, value) :: values)

/-- An object with the values of parameters in its strings. -/
def fillObject (value? : String → Option String) (key : ObjectKey) (r : Resource) :
    Except BundleError DynamicObject :=
  match DynamicObject.ofJson? (r.toJson.mapStrings (Placeholder.replace value?)) with
  | some o => .ok o
  | none => .error (.deserializeObject key)

/-- Fills objects in order; the first that cannot be read back decides. -/
def fillObjects (value? : String → Option String) :
    List (ObjectKey × Resource) → Except BundleError (List DynamicObject)
  | [] => .ok []
  | (key, r) :: rest => do
    let o ← fillObject value? key r
    let others ← fillObjects value? rest
    .ok (o :: others)

/-- Resolves every parameter and puts the values into the objects. -/
def process (b : Bundle) (supplied : SortedMap String String) (d : Draws) :
    Except BundleError Processed := do
  let values ← resolveParameters supplied b.parameters.values d
  let values := SortedMap.ofList values
  let items ← fillObjects values.get? b.objects.entries
  .ok { values, items }

end Bundle

end ApiPlatform
