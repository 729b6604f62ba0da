import ApiPlatform.Catalog.Backend
import ApiPlatform.Catalog.Databases
import ApiPlatform.Catalog.External
import ApiPlatform.Catalog.Gateways
import ApiPlatform.Catalog.Images
import ApiPlatform.Catalog.System
import ApiPlatform.Catalog.Zync
/-!
# Components

The parts of the platform by name, each with its options, the objects that it makes of them and
the capabilities that it declares.
-/

namespace ApiPlatform.Catalog

/-- A part of the platform. -/
inductive Component where
  | images
  | redis
  | backend
  | mysql
  | memcached
  | system
  | zync
  | gateways
  | wildcardRouter
  | highAvailability
  | objectStorage
  deriving DecidableEq, Repr

namespace Component

/-- Every component, in the order in which templates add them. -/
def all : List Component :=
  [.images, .redis, .backend, .mysql, .memcached, .system, .zync, .gateways, .wildcardRouter,
    .highAvailability, .objectStorage]

def name : Component → String
  | .images => "images"
  | .redis => "redis"
  | .backend => "backend"
  | .mysql => "mysql"
  | .memcached => "memcached"
  | .system => "system"
  | .zync => "zync"
  | .gateways => "apicast"
  | .wildcardRouter => "wildcard-router"
  | .highAvailability => "high-availability"
  | .objectStorage => "s3"

def ofName? (s : String) : Option Component := all.find? (·.name = s)

def schema : Component → OptionSchema
  | .images => ImagesOptions.schema
  | .redis => RedisOptions.schema
  | .backend => BackendOptions.schema
  | .mysql => MysqlOptions.schema
  | .memcached => MemcachedOptions.schema
  | .system => SystemOptions.schema
  | .zync => ZyncOptions.schema
  | .gateways => GatewaysOptions.schema
  | .wildcardRouter => WildcardRouterOptions.schema
  | .highAvailability => HighAvailabilityOptions.schema
  | .objectStorage => ObjectStorageOptions.schema

/-- The objects that a component makes of checked options. -/
def objectsOf (c : Component) (r : OptionRecord) : List Resource :=
  match c with
  | .images => Images.objects (.ofRecord r)
  | .redis => Redis.objects (.ofRecord r)
  | .backend => Backend.objects (.ofRecord r)
  | .mysql => Mysql.objects (.ofRecord r)
  | .memcached => Memcached.objects (.ofRecord r)
  | .system => System.objects (.ofRecord r)
  | .zync => Zync.objects (.ofRecord r)
  | .gateways => Gateways.objects (.ofRecord r)
  | .wildcardRouter => WildcardRouter.objects (.ofRecord r)
  | .highAvailability => HighAvailability.objects (.ofRecord r)
  | .objectStorage => ObjectStorage.objects (.ofRecord r)

/-- The objects of a component after its options were set. -/
def objects (c : Component) (calls : OptionCalls) : Except OptionsError (List Resource) :=
  (c.schema.build calls).map c.objectsOf

def capabilities : Component → Capabilities
  | .images => Images.capabilities
  | .redis => Redis.capabilities
  | .backend => Backend.capabilities
  | .mysql => Mysql.capabilities
  | .memcached => Memcached.capabilities
  | .system => System.capabilities
  | .zync => Zync.capabilities
  | .gateways | .wildcardRouter | .highAvailability | .objectStorage => {}

end Component

end ApiPlatform.Catalog
