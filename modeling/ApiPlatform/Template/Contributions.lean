import ApiPlatform.Catalog.Component
import ApiPlatform.Template.Assembly
/-!
# Contributions of the platform

What each component adds to a template: the parameters that it declares, and its objects with
references to parameters in the place of values.
-/

namespace ApiPlatform.Contributions

open Catalog

/-- A reference to a parameter as an option value. -/
def ref (name : String) : OptionValue := .text (Placeholder.text name)

/-- The expression of generated passwords and tokens. -/
def generatedSecret : String := "[a-z0-9]{8}"

/-- The expression of Zync's generated secrets. -/
def generatedZyncSecret : String := "[a-zA-Z0-9]{16}"

/-- The Secret with the credentials of object storage. -/
def objectStorageSecret : String := "aws-auth"

/-- A parameter that may stay empty. -/
def free (name : String) (description : Option String := none) : Parameter := { name, description }

/-- The contribution of a component with the given parameters and options. -/
def ofComponent (c : Component) (parameters : List Parameter) (calls : OptionCalls)
    (capabilities : Capabilities := c.capabilities) : Contribution :=
  { name := c.name, parameters, objects := c.objects calls, capabilities }

/-- Parameters that several components refer to. -/
def shared : Contribution :=
  { name := "global"
    parameters :=
      [(Parameter.needed "AMP_RELEASE" "AMP release tag.").withValue "2.5.0",
        (Parameter.needed "APP_LABEL" "Used for object app labels").withValue
          "3scale-api-management",
        (Parameter.needed "TENANT_NAME"
            "Tenant name under the root that Admin UI will be available with -admin suffix."
          ).withValue "3scale"] }

def images : Contribution :=
  ofComponent .images
    [(Parameter.needed "AMP_BACKEND_IMAGE").withValue "quay.io/3scale/apisonator:nightly",
      (Parameter.needed "AMP_ZYNC_IMAGE").withValue "quay.io/3scale/zync:nightly",
      (Parameter.needed "AMP_APICAST_IMAGE").withValue "quay.io/3scale/apicast:nightly",
      (Parameter.needed "AMP_ROUTER_IMAGE").withValue "quay.io/3scale/wildcard-router:nightly",
      (Parameter.needed "AMP_SYSTEM_IMAGE").withValue "quay.io/3scale/porta:nightly",
      (Parameter.needed "POSTGRESQL_IMAGE" "Postgresql image to use").withValue
        "registry.access.redhat.com/rhscl/postgresql-10-rhel7",
      (Parameter.needed "MYSQL_IMAGE" "Mysql image to use").withValue
        "registry.access.redhat.com/rhscl/mysql-57-rhel7:5.7",
      (Parameter.needed "MEMCACHED_IMAGE" "Memcached image to use").withValue
        "registry.access.redhat.com/3scale-amp20/memcached"]
    [("app_label", ref "APP_LABEL"), ("amp_release", ref "AMP_RELEASE"),
      ("apicast_image", ref "AMP_APICAST_IMAGE"), ("backend_image", ref "AMP_BACKEND_IMAGE"),
      ("router_image", ref "AMP_ROUTER_IMAGE"), ("system_image", ref "AMP_SYSTEM_IMAGE"),
      ("zync_image", ref "AMP_ZYNC_IMAGE"), ("postgresql_image", ref "POSTGRESQL_IMAGE"),
      ("backend_redis_image", ref "REDIS_IMAGE"), ("system_redis_image", ref "REDIS_IMAGE"),
      ("system_memcached_image", ref "MEMCACHED_IMAGE"),
      ("system_mysql_image", ref "MYSQL_IMAGE"), ("insecure_import_policy", .flag false)]
    { Images.capabilities.withDatabaseParameters ["MYSQL_IMAGE"] with
      productImageParameters := .ofList
        [("AMP_APICAST_IMAGE", .gateway), ("AMP_BACKEND_IMAGE", .backend),
          ("AMP_ROUTER_IMAGE", .wildcardRouter), ("AMP_SYSTEM_IMAGE", .system),
          ("AMP_ZYNC_IMAGE", .zync)] }

def redis : Contribution :=
  ofComponent .redis
    [(Parameter.needed "REDIS_IMAGE" "Redis image to use").withValue
      "registry.access.redhat.com/rhscl/redis-32-rhel7:3.2"]
    [("app_label", ref "APP_LABEL")]
    (Redis.capabilities.withDatabaseParameters ["REDIS_IMAGE"])

def backend : Contribution :=
  ofComponent .backend []
    [("app_label", ref "APP_LABEL"), ("system_backend_username", ref "SYSTEM_BACKEND_USERNAME"),
      ("system_backend_password", ref "SYSTEM_BACKEND_PASSWORD"),
      ("tenant_name", ref "TENANT_NAME"), ("wildcard_domain", ref "WILDCARD_DOMAIN")]

def mysql : Contribution :=
  ofComponent .mysql
    [{ (Parameter.needed "MYSQL_USER"
        "Username for MySQL user that will be used for accessing the database.").withValue
        "mysql" with
        displayName := "MySQL User" },
      { (Parameter.needed "MYSQL_PASSWORD" "Password for the MySQL user.").generated
          generatedSecret with
        displayName := "MySQL Password" },
      { (Parameter.needed "MYSQL_DATABASE" "Name of the MySQL database accessed.").withValue
          "system" with
        displayName := "MySQL Database Name" },
      { (Parameter.needed "MYSQL_ROOT_PASSWORD" "Password for Root user.").generated
          generatedSecret with
        displayName := "MySQL Root password." }]
    [("app_label", ref "APP_LABEL"), ("database_name", ref "MYSQL_DATABASE"),
      ("user", ref "MYSQL_USER"), ("password", ref "MYSQL_PASSWORD"),
      ("root_password", ref "MYSQL_ROOT_PASSWORD"),
      ("database_url",
        .text ("mysql2://root:" ++ Placeholder.text "MYSQL_ROOT_PASSWORD" ++ "@" ++ systemMysql ++
          "/" ++ Placeholder.text "MYSQL_DATABASE"))]
    (Mysql.capabilities.withDatabaseParameters
      ["MYSQL_USER", "MYSQL_PASSWORD", "MYSQL_DATABASE", "MYSQL_ROOT_PASSWORD"])

def memcached : Contribution := ofComponent .memcached [] [("app_label", ref "APP_LABEL")]

/-- The system; its storage class is a parameter that nothing else uses. -/
def system : Contribution :=
  ofComponent .system
    [(Parameter.needed "SYSTEM_BACKEND_USERNAME"
        "Internal 3scale API username for internal 3scale api auth.").withValue "3scale_api_user",
      (Parameter.needed "SYSTEM_BACKEND_PASSWORD"
        "Internal 3scale API password for internal 3scale api auth.").generated generatedSecret,
      (Parameter.needed "SYSTEM_BACKEND_SHARED_SECRET"
        "Shared secret to import events from backend to system.").generated generatedSecret,
      (Parameter.needed "SYSTEM_APP_SECRET_KEY_BASE"
        "System application secret key base").generated "[a-f0-9]{128}",
      (Parameter.needed "ADMIN_PASSWORD").generated generatedSecret,
      (Parameter.needed "ADMIN_USERNAME").withValue "admin",
      free "ADMIN_EMAIL",
      (free "ADMIN_ACCESS_TOKEN"
        "Admin Access Token with all scopes and write permissions for API access.").generated
        "[a-z0-9]{16}",
      (Parameter.needed "MASTER_NAME"
        "The root name which Master Admin UI will be available at.").withValue "master",
      (Parameter.needed "MASTER_USER").withValue "master",
      (Parameter.needed "MASTER_PASSWORD").generated generatedSecret,
      (Parameter.needed "MASTER_ACCESS_TOKEN").generated generatedSecret,
      free "RECAPTCHA_PUBLIC_KEY" "reCAPTCHA site key (used in spam protection)",
      free "RECAPTCHA_PRIVATE_KEY" "reCAPTCHA secret key (used in spam protection)",
      free "RWX_STORAGE_CLASS" "The Storage Class to be used by ReadWriteMany PVCs"]
    [("app_label", ref "APP_LABEL"), ("amp_release", ref "AMP_RELEASE"),
      ("admin_access_token", ref "ADMIN_ACCESS_TOKEN"), ("admin_password", ref "ADMIN_PASSWORD"),
      ("admin_username", ref "ADMIN_USERNAME"), ("admin_email", ref "ADMIN_EMAIL"),
      ("apicast_access_token", ref "APICAST_ACCESS_TOKEN"),
      ("apicast_registry_url", ref "APICAST_REGISTRY_URL"),
      ("master_access_token", ref "MASTER_ACCESS_TOKEN"), ("master_name", ref "MASTER_NAME"),
      ("master_username", ref "MASTER_USER"), ("master_password", ref "MASTER_PASSWORD"),
      ("recaptcha_public_key", ref "RECAPTCHA_PUBLIC_KEY"),
      ("recaptcha_private_key", ref "RECAPTCHA_PRIVATE_KEY"),
      ("app_secret_key_base", ref "SYSTEM_APP_SECRET_KEY_BASE"),
      ("backend_shared_secret", ref "SYSTEM_BACKEND_SHARED_SECRET"),
      ("tenant_name", ref "TENANT_NAME"), ("wildcard_domain", ref "WILDCARD_DOMAIN"),
      ("storage_class_name", ref "RWX_STORAGE_CLASS")]
    { System.capabilities with
      sharedStorage := System.capabilities.sharedStorage.map
        ({ · with parameter := some "RWX_STORAGE_CLASS" }) }

def zync : Contribution :=
  ofComponent .zync
    [{ (Parameter.needed "ZYNC_DATABASE_PASSWORD"
        "Password for the PostgreSQL connection user.").generated generatedZyncSecret with
        displayName := "PostgreSQL Connection Password" },
      (Parameter.needed "ZYNC_SECRET_KEY_BASE").generated generatedZyncSecret,
      (Parameter.needed "ZYNC_AUTHENTICATION_TOKEN").generated generatedZyncSecret]
    [("app_label", ref "APP_LABEL"), ("authentication_token", ref "ZYNC_AUTHENTICATION_TOKEN"),
      ("database_password", ref "ZYNC_DATABASE_PASSWORD"),
      ("secret_key_base", ref "ZYNC_SECRET_KEY_BASE")]

def gateways : Contribution :=
  ofComponent .gateways
    [(Parameter.needed "APICAST_ACCESS_TOKEN"
        ("Read Only Access Token that is APIcast going to use to download its " ++
          "configuration.")).generated generatedSecret,
      (free "APICAST_MANAGEMENT_API"
        ("Scope of the APIcast Management API. Can be disabled, status or debug. " ++
          "At least status required for health checks.")).withValue "status",
      (free "APICAST_OPENSSL_VERIFY"
        ("Turn on/off the OpenSSL peer verification when downloading the configuration. " ++
          "Can be set to true/false.")).withValue "false",
      (free "APICAST_RESPONSE_CODES" "Enable logging response codes in APIcast.").withValue "true",
      (Parameter.needed "APICAST_REGISTRY_URL"
        "A URL which resolves to the location of APIcast policies").withValue
        "http://apicast-staging:8090/policies"]
    [("app_label", ref "APP_LABEL"), ("tenant_name", ref "TENANT_NAME"),
      ("wildcard_domain", ref "WILDCARD_DOMAIN"),
      ("management_api", ref "APICAST_MANAGEMENT_API"),
      ("openssl_verify", ref "APICAST_OPENSSL_VERIFY"),
      ("response_codes", ref "APICAST_RESPONSE_CODES")]

def wildcardRouter : Contribution :=
  ofComponent .wildcardRouter
    [.needed "WILDCARD_DOMAIN"
        ("Root domain for the wildcard routes. Eg. example.com will generate " ++
          "3scale-admin.example.com."),
      (Parameter.needed "WILDCARD_POLICY"
        "Use \"Subdomain\" to create a wildcard route for apicast wildcard router").withValue
        "None"]
    [("app_label", ref "APP_LABEL"), ("wildcard_domain", ref "WILDCARD_DOMAIN"),
      ("wildcard_policy", ref "WILDCARD_POLICY")]

/-- Option values of a deployment with external databases. -/
def highAvailabilityCalls : OptionCalls :=
  [("app_label", ref "APP_LABEL"), ("system_database_url", ref "SYSTEM_DATABASE_URL"),
    ("system_redis_url", ref "SYSTEM_REDIS_URL"),
    ("backend_redis_storage_endpoint", ref "BACKEND_REDIS_STORAGE_ENDPOINT"),
    ("backend_redis_queues_endpoint", ref "BACKEND_REDIS_QUEUES_ENDPOINT")]

/-- The addresses of external databases.  Their objects replace those of other components, so the
transform adds them and not this contribution. -/
def highAvailability : Contribution :=
  { name := Component.highAvailability.name
    parameters :=
      [.needed "BACKEND_REDIS_STORAGE_ENDPOINT"
          "Define the external backend-redis storage endpoint to be used",
        .needed "BACKEND_REDIS_QUEUES_ENDPOINT"
          "Define the external backend-redis queues endpoint to be used",
        .needed "SYSTEM_REDIS_URL" "Define the external system-redis to connect to",
        .needed "SYSTEM_DATABASE_URL" "Define the external system-mysql to connect to"] }

/-- Option values of a deployment with object storage. -/
def objectStorageCalls : OptionCalls :=
  [("app_label", ref "APP_LABEL"), ("aws_access_key_id", ref "AWS_ACCESS_KEY_ID"),
    ("aws_secret_access_key", ref "AWS_SECRET_ACCESS_KEY"), ("aws_bucket", ref "AWS_BUCKET"),
    ("aws_region", ref "AWS_REGION"), ("aws_credentials_secret", .text objectStorageSecret)]

def objectStorage : Contribution :=
  ofComponent .objectStorage
    [{ Parameter.needed "AWS_ACCESS_KEY_ID"
          "AWS Access Key ID to use in S3 Storage for assets." with
        displayName := "AWS Access Key ID" },
      { Parameter.needed "AWS_SECRET_ACCESS_KEY"
          "AWS Access Key Secret to use in S3 Storage for assets." with
        displayName := "AWS Secret Access Key" },
      { Parameter.needed "AWS_BUCKET" "S3 Bucket Name to use in S3 Storage for assets." with
        displayName := "AWS S3 Bucket Name" },
      { Parameter.needed "AWS_REGION" "S3 Bucket Region to use in S3 Storage for assets." with
        displayName := "AWS Region" }]
    objectStorageCalls

/-- What every template contains, in order. -/
def base : List Contribution :=
  [shared, images, redis, backend, mysql, memcached, system, zync, gateways, wildcardRouter]

def all : List Contribution := base ++ [highAvailability, objectStorage]

def ofName? (s : String) : Option Contribution := all.find? (·.name = s)

end ApiPlatform.Contributions
