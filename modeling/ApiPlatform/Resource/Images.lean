import ApiPlatform.Resource.Metadata
/-!
# Image streams

Named lists of image tags.  A tag follows another tag of its stream or imports an outside image.
-/

namespace ApiPlatform

/-- A reference to an object by kind and name. -/
structure ObjectReference where
  kind : Option String := none
  name : Option String := none
  deriving DecidableEq, Inhabited

/-- A tag of an image stream; `importPolicy` says whether its source may be insecure. -/
structure ImageTag where
  name : String := ""
  annotations : Labels := .empty
  source : Option ObjectReference := none
  importPolicy : Option (Option Bool) := none
  deriving DecidableEq, Inhabited

/-- A named list of tags. -/
structure ImageStream where
  metadata : ObjectMeta := {}
  tags : List ImageTag := []
  deriving DecidableEq, Inhabited

def ObjectReference.codec : Codec ObjectReference :=
  ((Fields.optional "kind" .string).and <| Fields.optional "name" .string).iso
    (fun (kind, name) => ⟨kind, name⟩) (fun r => (r.kind, r.name)) (fun _ => rfl) |>.codec

def ImageTag.codec : Codec ImageTag :=
  ((Fields.required "name" .string).and <|
    (Fields.omittedAs "annotations" Labels.codec .empty).and <|
    (Fields.optional "from" ObjectReference.codec).and <|
    Fields.optional "importPolicy" (Fields.optional "insecure" .bool).recordCodec).iso
    (fun (name, annotations, source, policy) => ⟨name, annotations, source, policy⟩)
    (fun t => (t.name, t.annotations, t.source, t.importPolicy)) (fun _ => rfl) |>.recordCodec

def ImageStream.codec : Codec ImageStream :=
  (((Fields.label "apiVersion" "image.openshift.io/v1").and
      (Fields.label "kind" "ImageStream")).and <|
    (Fields.required "metadata" ObjectMeta.codec).and <|
    Fields.required "spec" (Fields.omittedAs "tags" (.list ImageTag.codec) []).recordCodec).iso
    (fun (_, metadata, tags) => ⟨metadata, tags⟩)
    (fun s => (((), ()), s.metadata, s.tags)) (fun _ => rfl) |>.codec

namespace ImageTag

/-- The name of the tag that names no release. -/
def latest : String := "latest"

def dockerImage (image : String) : ObjectReference :=
  { kind := some "DockerImage", name := some image }

/-- A tag that follows another tag of its stream. -/
def follow (name target : String) : ImageTag :=
  { name, source := some { kind := some "ImageStreamTag", name := some target } }

/-- A tag that imports an outside image. -/
def importing (name image : String) (insecure : Bool) : ImageTag :=
  { name, source := some (dockerImage image), importPolicy := some (some insecure) }

end ImageTag

end ApiPlatform
