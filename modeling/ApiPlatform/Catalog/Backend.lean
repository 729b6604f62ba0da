import ApiPlatform.Catalog.Capabilities
import ApiPlatform.Catalog.Names
import ApiPlatform.Catalog.Parts
import ApiPlatform.Options.Schema
/-!
# Backend

The listener that authorises requests, the worker and the scheduler, with their secrets and the
route to the listener.
-/

namespace ApiPlatform.Catalog

/-- Credentials, addresses and scale of the backend. -/
structure BackendOptions where
  appLabel : String
  username : String
  password : String
  tenantName : String
  wildcardDomain : String
  storageUrl : String
  queuesUrl : String
  listenerReplicas : Int32
  workerReplicas : Int32
  cronReplicas : Int32
  deriving DecidableEq

namespace BackendOptions

def schema : OptionSchema :=
  { title := "BackendOptions"
    fields :=
      [.requires "app_label", .requires "system_backend_username",
        .requires "system_backend_password", .requires "tenant_name",
        .requires "wildcard_domain",
        .defaults "storage_url" (.text "redis://backend-redis:6379/0"),
        .defaults "queues_url" (.text "redis://backend-redis:6379/1"),
        .defaults "listener_replicas" (.count 1), .defaults "worker_replicas" (.count 1),
        .defaults "cron_replicas" (.count 1)] }

def ofRecord (r : OptionRecord) : BackendOptions :=
  { appLabel := r.text "app_label"
    username := r.text "system_backend_username"
    password := r.text "system_backend_password"
    tenantName := r.text "tenant_name"
    wildcardDomain := r.text "wildcard_domain"
    storageUrl := r.text "storage_url"
    queuesUrl := r.text "queues_url"
    listenerReplicas := r.count "listener_replicas"
    workerReplicas := r.count "worker_replicas"
    cronReplicas := r.count "cron_replicas" }

end BackendOptions

namespace Backend

/-- The workload and container of the scheduler. -/
def cronName : String := "backend-cron"

/-- The workload, container and service of the listener. -/
def listenerName : String := "backend-listener"

/-- The workload and container of the worker. -/
def workerName : String := "backend-worker"

/-- The image stream tag of every container. -/
def image : String := "amp-backend:latest"

def port : Int32 := 3000

def labels (o : BackendOptions) (part : String) : Labels := Labels.element o.appLabel "backend" part

def routeHost (o : BackendOptions) : String := s!"backend-{o.tenantName}.{o.wildcardDomain}"

/-- The variables that every process of the backend has. -/
def redisEnv : List EnvVar :=
  [.ofSecret "CONFIG_REDIS_PROXY" backendRedisSecret redisStorageField,
    .ofSecret "CONFIG_QUEUES_MASTER_NAME" backendRedisSecret redisQueuesField,
    .literal "CONFIG_REDIS_SENTINEL_HOSTS" "",
    .literal "CONFIG_REDIS_SENTINEL_ROLE" "",
    .literal "CONFIG_QUEUES_SENTINEL_HOSTS" "",
    .literal "CONFIG_QUEUES_SENTINEL_ROLE" "",
    .literal "RACK_ENV" "production"]

def cron (o : BackendOptions) : Resource :=
  let c : Container :=
    { container cronName image with
      args := some ["backend-cron"]
      resources := some (.of "150m" "80Mi" "50m" "40Mi") }
  workload
    { name := cronName
      labels := labels o "cron"
      replicas := o.cronReplicas
      watched := ([cronName], image)
      pod := Catalog.pod [c.addEnv redisEnv] [] }

def listener (o : BackendOptions) : Resource :=
  let c : Container :=
    { container listenerName image with
      args := some ["bin/3scale_backend", "start", "-e", "production", "-p", "3000", "-x",
        "/dev/stdout"]
      resources := some (.of "1000m" "700Mi" "500m" "550Mi")
      livenessProbe := some
        { Probe.connecting (.number port) with
          initialDelaySeconds := some 30
          periodSeconds := some 10 }
      readinessProbe := some
        { Probe.getting (.number port) "/status" with
          initialDelaySeconds := some 30
          timeoutSeconds := some 5 } }
  let env := redisEnv ++
    [.literal "PUMA_WORKERS" "16",
      .ofSecret "CONFIG_INTERNAL_API_USER" internalApiSecret "username",
      .ofSecret "CONFIG_INTERNAL_API_PASSWORD" internalApiSecret "password"]
  workload
    { name := listenerName
      labels := labels o "listener"
      replicas := o.listenerReplicas
      watched := ([listenerName], image)
      pod := Catalog.pod [(c.addPort "http" port).addEnv env] [] }

def worker (o : BackendOptions) : Resource :=
  let c : Container :=
    { container workerName image with
      args := some ["bin/3scale_backend_worker", "run"]
      resources := some (.of "1000m" "300Mi" "150m" "50Mi") }
  let env := redisEnv ++
    [.ofSecret "CONFIG_EVENTS_HOOK" eventsHookSecret "URL",
      .ofSecret "CONFIG_EVENTS_HOOK_SHARED_SECRET" eventsHookSecret "PASSWORD"]
  workload
    { name := workerName
      labels := labels o "worker"
      replicas := o.workerReplicas
      watched := ([workerName], image)
      pod := Catalog.pod [c.addEnv env] [] }

/-- The three workloads, the listener's service and route, and the secrets. -/
def objects (o : BackendOptions) : List Resource :=
  let shared := Labels.component o.appLabel "backend"
  [cron o,
    listener o,
    service listenerName (labels o "listener") listenerName [⟨"http", port, "http"⟩],
    worker o,
    route "backend" (labels o "listener") (.edge (routeHost o) listenerName "http"),
    secret internalApiSecret shared [("username", o.username), ("password", o.password)],
    secret listenerSecret shared
      [(listenerServiceField, s!"http://{listenerName}:3000"),
        (listenerRouteField, s!"https://{routeHost o}")],
    secret backendRedisSecret shared
      [(redisStorageField, o.storageUrl), (redisQueuesField, o.queuesUrl)]]

/-- Both Redis databases may be external. -/
def capabilities : Capabilities :=
  (({} : Capabilities).withEndpoint .backendRedisStorage backendRedisSecret
    redisStorageField).withEndpoint .backendRedisQueues backendRedisSecret redisQueuesField

end Backend

end ApiPlatform.Catalog
