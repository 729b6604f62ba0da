import ApiPlatform.Options.Schema
import ApiPlatform.Transform.Chain
/-!
# Productized images

Points product images at the curated registry: the defaults of their parameters and the release
tags of their streams.  Tags that follow a release tag stay as they are.
-/

namespace ApiPlatform

/-- The release and the curated image of every product. -/
structure ProductizedOptions where
  release : String
  gatewayImage : String
  backendImage : String
  routerImage : String
  systemImage : String
  zyncImage : String
  deriving DecidableEq

namespace ProductizedOptions

def schema : OptionSchema :=
  { title := "ProductizedOptions"
    fields :=
      [.requires "amp_release", .requires "apicast_image", .requires "backend_image",
        .requires "router_image", .requires "system_image", .requires "zync_image"] }

def ofRecord (r : OptionRecord) : ProductizedOptions :=
  { release := r.text "amp_release"
    gatewayImage := r.text "apicast_image"
    backendImage := r.text "backend_image"
    routerImage := r.text "router_image"
    systemImage := r.text "system_image"
    zyncImage := r.text "zync_image" }

/-- The curated image of a product. -/
def image (o : ProductizedOptions) : ProductImage → String
  | .gateway => o.gatewayImage
  | .backend => o.backendImage
  | .system => o.systemImage
  | .wildcardRouter => o.routerImage
  | .zync => o.zyncImage

end ProductizedOptions

namespace Productized

/-- Gives each declared parameter the image of its product as default. -/
def redirectDefaults (o : ProductizedOptions) (b : Bundle) : Bundle :=
  b.capabilities.productImageParameters.entries.foldl
    (fun b e => b.setDefault e.1 (some (o.image e.2))) b

/-- The tag with a curated image as source, if it is the release tag. -/
def redirectTag (o : ProductizedOptions) (image : ProductImage) (t : ImageTag) : ImageTag :=
  if t.name = o.release then { t with source := some (ImageTag.dockerImage (o.image image)) } else t

/-- The stream with its release tags redirected, if it is declared as a product's. -/
def redirectStream (o : ProductizedOptions) (c : Capabilities) : Resource → Resource
  | .imageStream s =>
    match s.metadata.name.bind c.productImageStreams.get? with
    | some image => .imageStream { s with tags := s.tags.map (redirectTag o image) }
    | none => .imageStream s
  | r => r

def transform (o : ProductizedOptions) : Transform :=
  { name := "productized"
    stage := .productized
    run := fun b => .ok ((redirectDefaults o b).mapObjects (redirectStream o b.capabilities)) }

end Productized

end ApiPlatform
