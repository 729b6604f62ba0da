import ApiPlatform.Catalog.Capabilities
import ApiPlatform.Catalog.Names
import ApiPlatform.Catalog.Parts
import ApiPlatform.Options.Schema
/-!
# Image streams of the platform

One stream per image, each with a tag for the release and a floating tag that follows it, and the
account that may pull them.
-/

namespace ApiPlatform.Catalog

/-- Release and image of every stream. -/
structure ImagesOptions where
  appLabel : String
  release : String
  gatewayImage : String
  backendImage : String
  routerImage : String
  systemImage : String
  zyncImage : String
  postgresqlImage : String
  backendRedisImage : String
  systemRedisImage : String
  systemMemcachedImage : String
  systemMysqlImage : String
  insecureImport : Bool
  deriving DecidableEq

namespace ImagesOptions

def schema : OptionSchema :=
  { title := "AmpImagesOptions"
    fields :=
      [.requires "app_label", .requires "amp_release", .requires "apicast_image",
        .requires "backend_image", .requires "router_image", .requires "system_image",
        .requires "zync_image", .requires "postgresql_image", .requires "backend_redis_image",
        .requires "system_redis_image", .requires "system_memcached_image",
        .requires "system_mysql_image", .defaults "insecure_import_policy" (.flag false)] }

def ofRecord (r : OptionRecord) : ImagesOptions :=
  { appLabel := r.text "app_label"
    release := r.text "amp_release"
    gatewayImage := r.text "apicast_image"
    backendImage := r.text "backend_image"
    routerImage := r.text "router_image"
    systemImage := r.text "system_image"
    zyncImage := r.text "zync_image"
    postgresqlImage := r.text "postgresql_image"
    backendRedisImage := r.text "backend_redis_image"
    systemRedisImage := r.text "system_redis_image"
    systemMemcachedImage := r.text "system_memcached_image"
    systemMysqlImage := r.text "system_mysql_image"
    insecureImport := r.flag "insecure_import_policy" }

end ImagesOptions

/-- The annotation that consoles show as the name of an object. -/
def displayName (text : String) : Labels := .ofList [("openshift.io/display-name", text)]

/-- One stream with its floating tag and its release tag. -/
def imageStream (o : ImagesOptions) (name title image : String) : Resource :=
  .imageStream
    { metadata :=
        { named name (Labels.component o.appLabel "images") with
          annotations := some (displayName title) }
      tags :=
        [{ ImageTag.follow ImageTag.latest o.release with
            annotations := displayName s!"{title} (latest)" },
          { ImageTag.importing o.release image o.insecureImport with
            annotations := displayName s!"{title} {o.release}" }] }

namespace Images

def objects (o : ImagesOptions) : List Resource :=
  [imageStream o "amp-backend" "AMP backend" o.backendImage,
    imageStream o "amp-zync" "AMP Zync" o.zyncImage,
    imageStream o "amp-apicast" "AMP APIcast" o.gatewayImage,
    imageStream o "amp-wildcard-router" "AMP APIcast Wildcard Router" o.routerImage,
    imageStream o "amp-system" "AMP System" o.systemImage,
    imageStream o "postgresql" "Zync database PostgreSQL" o.postgresqlImage,
    imageStream o backendRedis "Backend Redis" o.backendRedisImage,
    imageStream o systemRedis "System Redis" o.systemRedisImage,
    imageStream o "system-memcached" "System Memcached" o.systemMemcachedImage,
    imageStream o systemMysql "System MySQL" o.systemMysqlImage,
    .serviceAccount
      { metadata := named serviceAccountName (Labels.component o.appLabel "images")
        imagePullSecrets := some ["threescale-registry-auth"] }]

/-- Streams of databases may go, and streams of product images may be redirected. -/
def capabilities : Capabilities :=
  { ({} : Capabilities).withDatabaseObjects .imageStream
      [backendRedis, systemRedis, systemMysql] with
    productImageStreams := .ofList
      [("amp-apicast", .gateway), ("amp-backend", .backend), ("amp-system", .system),
        ("amp-wildcard-router", .wildcardRouter), ("amp-zync", .zync)] }

end Images

end ApiPlatform.Catalog
