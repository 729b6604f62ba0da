import ApiPlatform.Catalog.Capabilities
import ApiPlatform.Catalog.Names
import ApiPlatform.Catalog.Parts
import ApiPlatform.Options.Schema
/-!
# External services

Connections of a deployment whose databases or file storage are outside the cluster.
-/

namespace ApiPlatform.Catalog

/-- Addresses of external databases, and the scale of workloads that use them. -/
structure HighAvailabilityOptions where
  appLabel : String
  systemDatabaseUrl : String
  systemRedisUrl : String
  backendRedisStorageUrl : String
  backendRedisQueuesUrl : String
  replicas : Int32
  deriving DecidableEq

/-- Credentials and place of object storage. -/
structure ObjectStorageOptions where
  appLabel : String
  accessKeyId : String
  secretAccessKey : String
  region : String
  bucket : String
  credentialsSecret : String
  fileUploadStorage : String
  deriving DecidableEq

namespace HighAvailabilityOptions

def schema : OptionSchema :=
  { title := "HighAvailabilityOptions"
    fields :=
      [.requires "app_label", .requires "system_database_url", .requires "system_redis_url",
        .requires "backend_redis_storage_endpoint", .requires "backend_redis_queues_endpoint",
        .defaults "replicas" (.count 2)] }

def ofRecord (r : OptionRecord) : HighAvailabilityOptions :=
  { appLabel := r.text "app_label"
    systemDatabaseUrl := r.text "system_database_url"
    systemRedisUrl := r.text "system_redis_url"
    backendRedisStorageUrl := r.text "backend_redis_storage_endpoint"
    backendRedisQueuesUrl := r.text "backend_redis_queues_endpoint"
    replicas := r.count "replicas" }

def url (o : HighAvailabilityOptions) : ExternalEndpoint → String
  | .systemDatabase => o.systemDatabaseUrl
  | .systemRedis => o.systemRedisUrl
  | .backendRedisStorage => o.backendRedisStorageUrl
  | .backendRedisQueues => o.backendRedisQueuesUrl

end HighAvailabilityOptions

namespace ObjectStorageOptions

def schema : OptionSchema :=
  { title := "S3Options"
    fields :=
      [.requires "app_label", .requires "aws_access_key_id", .requires "aws_secret_access_key",
        .requires "aws_region", .requires "aws_bucket", .requires "aws_credentials_secret",
        .defaults "file_upload_storage" (.text "s3")] }

def ofRecord (r : OptionRecord) : ObjectStorageOptions :=
  { appLabel := r.text "app_label"
    accessKeyId := r.text "aws_access_key_id"
    secretAccessKey := r.text "aws_secret_access_key"
    region := r.text "aws_region"
    bucket := r.text "aws_bucket"
    credentialsSecret := r.text "aws_credentials_secret"
    fileUploadStorage := r.text "file_upload_storage" }

end ObjectStorageOptions

/-- The connection to an external system database. -/
def HighAvailability.objects (o : HighAvailabilityOptions) : List Resource :=
  [secret databaseSecret (Labels.component o.appLabel "system")
    [(databaseUrlField, o.systemDatabaseUrl)]]

/-- The credentials of object storage. -/
def ObjectStorage.objects (o : ObjectStorageOptions) : List Resource :=
  [secret o.credentialsSecret (Labels.component o.appLabel "system")
    [(accessKeyIdField, o.accessKeyId), (secretAccessKeyField, o.secretAccessKey)]]

end ApiPlatform.Catalog
