/-!
# Names

The names by which components refer to each other's objects and entries.
-/

namespace ApiPlatform.Catalog

def listenerSecret : String := "backend-listener"

/-- Entry with the address of the listener inside the cluster. -/
def listenerServiceField : String := "service_endpoint"

/-- Entry with the address of the listener outside the cluster. -/
def listenerRouteField : String := "route_endpoint"

def internalApiSecret : String := "backend-internal-api"

def backendRedisSecret : String := "backend-redis"

def redisStorageField : String := "REDIS_STORAGE_URL"

def redisQueuesField : String := "REDIS_QUEUES_URL"

def databaseSecret : String := "system-database"

def databaseUrlField : String := "URL"

def systemRedisSecret : String := "system-redis"

def systemRedisField : String := "URL"

/-- Secret with the credentials under which gateways read the master tenant's configuration. -/
def masterGatewaySecret : String := "system-master-apicast"

def eventsHookSecret : String := "system-events-hook"

def zyncSecret : String := "zync"

/-- Entry with the token that Zync accepts. -/
def zyncTokenField : String := "ZYNC_AUTHENTICATION_TOKEN"

/-- Entry with the identifier of an access key to object storage. -/
def accessKeyIdField : String := "AWS_ACCESS_KEY_ID"

/-- Entry with an access key to object storage. -/
def secretAccessKeyField : String := "AWS_SECRET_ACCESS_KEY"

/-- The ConfigMap with the environment of the system's processes. -/
def systemEnvironment : String := "system-environment"

/-- The claim and volume with the files of the system. -/
def systemStorage : String := "system-storage"

def systemMemcache : String := "system-memcache"

def systemMysql : String := "system-mysql"

def backendRedis : String := "backend-redis"

def systemRedis : String := "system-redis"

end ApiPlatform.Catalog
