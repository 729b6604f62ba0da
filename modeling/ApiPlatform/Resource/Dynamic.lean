import ApiPlatform.Resource.Metadata
/-!
# Dynamic objects

Objects whose kind is known by name alone: the version and kind that they state, their metadata,
and every other entry as it stands.
-/

namespace ApiPlatform

/-- The version and kind that an object states. -/
structure TypeMeta where
  apiVersion : String
  kind : String
  deriving DecidableEq, Inhabited

def TypeMeta.fields : Fields TypeMeta :=
  ((Fields.required "apiVersion" .string).and <| Fields.required "kind" .string).iso
    (fun (apiVersion, kind) => ⟨apiVersion, kind⟩) (fun t => (t.apiVersion, t.kind))
    (fun _ => rfl)

/-- An object of any kind. -/
structure DynamicObject where
  /-- Absent unless the object states both parts as text. -/
  types : Option TypeMeta := none
  metadata : ObjectMeta := {}
  /-- All other entries. -/
  data : List (String × Json) := []

namespace DynamicObject

def metadataField : Fields ObjectMeta := Fields.absentAs "metadata" ObjectMeta.codec {}

/-- The keys of the entries that an object is read by. -/
def ownKeys : List String := TypeMeta.fields.keys ++ metadataField.keys

/-- Reads an object; only metadata of another form is refused. -/
def ofJson? : Json → Option DynamicObject
  | .obj entries =>
    (metadataField.decode entries).map fun metadata =>
      { types := TypeMeta.fields.decode entries
        metadata
        data := entries.filter fun e => !ownKeys.contains e.1 }
  | _ => none

def toJson (o : DynamicObject) : Json :=
  .obj ((o.types.map TypeMeta.fields.encode).getD [] ++
    (metadataField.encode o.metadata ++ o.data))

end DynamicObject

end ApiPlatform
