import ApiPlatform.Catalog.Capabilities
import ApiPlatform.Catalog.Names
import ApiPlatform.Catalog.Parts
import ApiPlatform.Options.Schema
/-!
# Databases and caches

The Redis, MySQL and Memcached instances that the platform brings along.  The first two can be
replaced by external ones; the last runs exactly one replica.
-/

namespace ApiPlatform.Catalog

/-- Storage of the Redis instances. -/
structure RedisOptions where
  appLabel : String
  backendStorageClass : Option String
  systemStorageClass : Option String
  deriving DecidableEq

/-- Credentials and storage of the system database. -/
structure MysqlOptions where
  appLabel : String
  databaseName : String
  user : String
  password : String
  rootPassword : String
  databaseUrl : String
  storageClass : Option String
  deriving DecidableEq

/-- Image of the cache. -/
structure MemcachedOptions where
  appLabel : String
  image : String
  deriving DecidableEq

namespace RedisOptions

def schema : OptionSchema :=
  { title := "RedisOptions"
    fields :=
      [.requires "app_label", .omits "backend_redis_storage_class",
        .omits "system_redis_storage_class"] }

def ofRecord (r : OptionRecord) : RedisOptions :=
  { appLabel := r.text "app_label"
    backendStorageClass := r.text? "backend_redis_storage_class"
    systemStorageClass := r.text? "system_redis_storage_class" }

end RedisOptions

namespace MysqlOptions

def schema : OptionSchema :=
  { title := "MysqlOptions"
    fields :=
      [.requires "app_label", .requires "database_name", .requires "user", .requires "password",
        .requires "root_password", .requires "database_url", .omits "storage_class_name"] }

def ofRecord (r : OptionRecord) : MysqlOptions :=
  { appLabel := r.text "app_label"
    databaseName := r.text "database_name"
    user := r.text "user"
    password := r.text "password"
    rootPassword := r.text "root_password"
    databaseUrl := r.text "database_url"
    storageClass := r.text? "storage_class_name" }

end MysqlOptions

namespace MemcachedOptions

def schema : OptionSchema :=
  { title := "MemcachedOptions"
    fields := [.requires "app_label", .defaults "image" (.text "system-memcached:latest")] }

def ofRecord (r : OptionRecord) : MemcachedOptions :=
  { appLabel := r.text "app_label", image := r.text "image" }

end MemcachedOptions

namespace Redis

/-- The claim of the backend's instance. -/
def backendStorage : String := "backend-redis-storage"

/-- The claim of the system's instance. -/
def systemStorage : String := "system-redis-storage"

/-- The ConfigMap, volume and component part of the server configuration. -/
def configName : String := "redis-config"

def port : Int32 := 6379

def serverConfig : String := String.intercalate "\n"
  ["protected-mode no", "", "port 6379", "", "timeout 0", "tcp-keepalive 300", "",
    "daemonize no", "supervised no", "", "loglevel notice", "", "databases 16", "",
    "save 900 1", "save 300 10", "save 60 10000", "", "stop-writes-on-bgsave-error yes", "",
    "rdbcompression yes", "rdbchecksum yes", "", "dbfilename dump.rdb", "",
    "slave-serve-stale-data yes", "slave-read-only yes", "", "repl-diskless-sync no",
    "repl-disable-tcp-nodelay no", "", "appendonly yes", "appendfilename \"appendonly.aof\"",
    "appendfsync everysec", "no-appendfsync-on-rewrite no", "auto-aof-rewrite-percentage 100",
    "auto-aof-rewrite-min-size 64mb", "aof-load-truncated yes", "", "lua-time-limit 5000", "",
    "activerehashing no", "", "aof-rewrite-incremental-fsync yes", "dir /var/lib/redis/data", ""]

/-- Workload, service and claim of one instance. -/
def instanceObjects (appLabel name storage : String) (storageClass : Option String) :
    List Resource :=
  let labels := Labels.element appLabel "redis" name
  let dataVolume := s!"{name}-storage"
  let server : Container :=
    { container name s!"{name}:latest" with
      command := some ["/opt/rh/rh-redis32/root/usr/bin/redis-server"]
      args := some ["/etc/redis.d/redis.conf", "--daemonize", "no"]
      resources := some (.of "2000m" "32Gi" "1000m" "1024Mi")
      readinessProbe := some
        { Probe.running ["container-entrypoint", "bash", "-c",
            "redis-cli set liveness-probe \"`date`\" | grep OK"] with
          initialDelaySeconds := some 10
          periodSeconds := some 30
          timeoutSeconds := some 1 }
      livenessProbe := some
        { Probe.connecting (.number port) with
          initialDelaySeconds := some 10
          periodSeconds := some 10 } }
  let server := ((server.addPort "redis" port).addMount dataVolume "/var/lib/redis/data").addMount
    configName "/etc/redis.d/"
  [workload
      { name
        labels
        strategy := .recreate
        watched := ([name], s!"{name}:latest")
        pod := Catalog.pod [server]
          [.claimed dataVolume storage, .ofConfigMap configName configName ["redis.conf"]] },
    service name labels name [⟨"redis", port, "redis"⟩],
    volumeClaim storage labels "ReadWriteOnce" "1Gi" storageClass]

def objects (o : RedisOptions) : List Resource :=
  instanceObjects o.appLabel backendRedis backendStorage o.backendStorageClass ++
    [configMap configName (Labels.component o.appLabel "redis") [("redis.conf", serverConfig)]] ++
    instanceObjects o.appLabel systemRedis systemStorage o.systemStorageClass

/-- Both instances may be replaced. -/
def capabilities : Capabilities :=
  (((({} : Capabilities).withDatabaseObjects .deploymentConfig
    [backendRedis, systemRedis]).withDatabaseObjects .service
    [backendRedis, systemRedis]).withDatabaseObjects .configMap [configName]).withDatabaseObjects
    .persistentVolumeClaim [backendStorage, systemStorage]

end Redis

namespace Mysql

/-- The claim and volume of the data. -/
def storage : String := "mysql-storage"

/-- The ConfigMap and volume of the main configuration. -/
def mainConfigName : String := "mysql-main-conf"

/-- The ConfigMap and volume of the additional configuration. -/
def extraConfigName : String := "mysql-extra-conf"

def port : Int32 := 3306

def mainConfig : String := "!include /etc/my.cnf\n!includedir /etc/my-extra.d\n"

/-- The character set of clients and server. -/
def charsetConfig : String := String.intercalate "\n"
  ["[client]", "default-character-set = utf8", "", "[mysql]", "default-character-set = utf8", "",
    "[mysqld]", "character-set-server = utf8", "collation-server = utf8_unicode_ci", ""]

/-- The labels of every object but the connection. -/
def labels (o : MysqlOptions) : Labels := Labels.element o.appLabel "system" "mysql"

def server (o : MysqlOptions) : Container :=
  let c : Container :=
    { container systemMysql "system-mysql:latest" with
      resources := some (.of "2" "2Gi" "250m" "512Mi")
      livenessProbe := some
        { Probe.connecting (.number port) with
          initialDelaySeconds := some 30
          timeoutSeconds := some 1 }
      readinessProbe := some
        { Probe.running ["/bin/sh", "-i", "-c",
            "MYSQL_PWD=\"$MYSQL_PASSWORD\" mysql -h 127.0.0.1 -u $MYSQL_USER " ++
              "-D $MYSQL_DATABASE -e 'SELECT 1'"] with
          initialDelaySeconds := some 10
          timeoutSeconds := some 5 } }
  ((((c.addPort "mysql" port).addEnv
    [.ofSecret "MYSQL_USER" databaseSecret "DB_USER",
      .ofSecret "MYSQL_PASSWORD" databaseSecret "DB_PASSWORD",
      .literal "MYSQL_DATABASE" o.databaseName,
      .ofSecret "MYSQL_ROOT_PASSWORD" databaseSecret "DB_ROOT_PASSWORD",
      .literal "MYSQL_LOWER_CASE_TABLE_NAMES" "1",
      .literal "MYSQL_DEFAULTS_FILE" "/etc/my-extra/my.cnf"]).addMount storage
    "/var/lib/mysql/data").addMount extraConfigName "/etc/my-extra.d").addMount
    mainConfigName "/etc/my-extra"

def objects (o : MysqlOptions) : List Resource :=
  [workload
      { name := systemMysql
        labels := labels o
        strategy := .recreate
        watched := ([systemMysql], "system-mysql:latest")
        pod := Catalog.pod [server o]
          [.claimed storage storage, .ofConfigMap extraConfigName extraConfigName [],
            .ofConfigMap mainConfigName mainConfigName []] },
    service systemMysql (labels o) systemMysql [⟨"system-mysql", port, "mysql"⟩],
    configMap mainConfigName (labels o) [("my.cnf", mainConfig)],
    configMap extraConfigName (labels o) [("mysql-charset.cnf", charsetConfig)],
    volumeClaim storage (labels o) "ReadWriteOnce" "1Gi" o.storageClass,
    secret databaseSecret (Labels.component o.appLabel "system")
      [(databaseUrlField, o.databaseUrl), ("DB_USER", o.user), ("DB_PASSWORD", o.password),
        ("DB_ROOT_PASSWORD", o.rootPassword)]]

/-- The server may be replaced, and with it the whole connection. -/
def capabilities : Capabilities :=
  { ((((({} : Capabilities).withDatabaseObjects .deploymentConfig
      [systemMysql]).withDatabaseObjects .service [systemMysql]).withDatabaseObjects
      .configMap [mainConfigName, extraConfigName]).withDatabaseObjects .persistentVolumeClaim
      [storage]).withEndpoint .systemDatabase databaseSecret databaseUrlField with
    connectionSecrets := .ofList [databaseSecret] }

end Mysql

namespace Memcached

def port : Int32 := 11211

def objects (o : MemcachedOptions) : List Resource :=
  let labels := Labels.element o.appLabel "system" "memcache"
  let server : Container :=
    { container "memcache" o.image with
      command := some ["memcached", "-m", "64"]
      resources := some (.of "250m" "96Mi" "50m" "64Mi")
      livenessProbe := some
        { Probe.connecting (.number port) with
          initialDelaySeconds := some 10
          periodSeconds := some 10 }
      readinessProbe := some
        { Probe.running ["sh", "-c", "echo version | nc $HOSTNAME 11211 | grep VERSION"] with
          initialDelaySeconds := some 10
          periodSeconds := some 30
          timeoutSeconds := some 5 } }
  [workload
      { name := systemMemcache
        labels
        watched := (["memcache"], "system-memcached:latest")
        pod := Catalog.pod [server.addPort "memcache" port] [] },
    service systemMemcache labels systemMemcache [⟨"memcache", port, "memcache"⟩]]

/-- The cache runs one replica. -/
def capabilities : Capabilities := { singletonWorkloads := .ofList [systemMemcache] }

end Memcached

end ApiPlatform.Catalog
