import ApiPlatform.Catalog.Capabilities
import ApiPlatform.Catalog.Names
import ApiPlatform.Catalog.Parts
import ApiPlatform.Options.Schema
/-!
# System

The admin and developer portals with their job and search processes, the configuration and secrets
that they share, and the claim that holds uploaded files.
-/

namespace ApiPlatform.Catalog

/-- Tenants, credentials and scale of the system. -/
structure SystemOptions where
  appLabel : String
  release : String
  adminPassword : String
  adminUsername : String
  adminAccessToken : String
  masterName : String
  masterUsername : String
  masterPassword : String
  masterAccessToken : String
  appSecretKeyBase : String
  backendSharedSecret : String
  tenantName : String
  wildcardDomain : String
  gatewayAccessToken : String
  gatewayRegistryUrl : String
  adminEmail : String
  recaptchaPublicKey : String
  recaptchaPrivateKey : String
  redisUrl : String
  appReplicas : Int32
  sidekiqReplicas : Int32
  storageClass : Option String
  deriving DecidableEq

namespace SystemOptions

def schema : OptionSchema :=
  { title := "SystemOptions"
    fields :=
      [.requires "app_label", .requires "amp_release", .requires "admin_password",
        .requires "admin_username", .requires "admin_access_token", .requires "master_name",
        .requires "master_username", .requires "master_password",
        .requires "master_access_token", .requires "app_secret_key_base",
        .requires "backend_shared_secret", .requires "tenant_name", .requires "wildcard_domain",
        .requires "apicast_access_token", .requires "apicast_registry_url",
        .defaults "admin_email" (.text ""), .defaults "recaptcha_public_key" (.text ""),
        .defaults "recaptcha_private_key" (.text ""),
        .defaults "redis_url" (.text "redis://system-redis:6379/1"),
        .defaults "app_replicas" (.count 1), .defaults "sidekiq_replicas" (.count 1),
        .omits "storage_class_name"] }

def ofRecord (r : OptionRecord) : SystemOptions :=
  { appLabel := r.text "app_label"
    release := r.text "amp_release"
    adminPassword := r.text "admin_password"
    adminUsername := r.text "admin_username"
    adminAccessToken := r.text "admin_access_token"
    masterName := r.text "master_name"
    masterUsername := r.text "master_username"
    masterPassword := r.text "master_password"
    masterAccessToken := r.text "master_access_token"
    appSecretKeyBase := r.text "app_secret_key_base"
    backendSharedSecret := r.text "backend_shared_secret"
    tenantName := r.text "tenant_name"
    wildcardDomain := r.text "wildcard_domain"
    gatewayAccessToken := r.text "apicast_access_token"
    gatewayRegistryUrl := r.text "apicast_registry_url"
    adminEmail := r.text "admin_email"
    recaptchaPublicKey := r.text "recaptcha_public_key"
    recaptchaPrivateKey := r.text "recaptcha_private_key"
    redisUrl := r.text "redis_url"
    appReplicas := r.count "app_replicas"
    sidekiqReplicas := r.count "sidekiq_replicas"
    storageClass := r.text? "storage_class_name" }

end SystemOptions

namespace System

def appName : String := "system-app"

/-- The workload and container of the job process. -/
def sidekiqName : String := "system-sidekiq"

/-- The workload, container and service of the search process. -/
def sphinxName : String := "system-sphinx"

/-- The container and service of the provider portal. -/
def providerName : String := "system-provider"

/-- The container and service of the master portal. -/
def masterName : String := "system-master"

/-- The container and service of the developer portal. -/
def developerName : String := "system-developer"

def configName : String := "system"

def seedSecret : String := "system-seed"

def appSecret : String := "system-app"

def recaptchaSecret : String := "system-recaptcha"

def configVolume : String := "system-config"

def sphinxVolume : String := "system-sphinx-database"

/-- Where uploaded files are mounted. -/
def storagePath : String := "/opt/system/public/system"

/-- Where configuration files are mounted. -/
def configPath : String := "/opt/system-extra-configs"

/-- The image stream tag of every container. -/
def image : String := "amp-system:latest"

/-- The configuration files that are mounted. -/
def configFiles : List String := ["zync.yml", "rolling_updates.yml", "service_discovery.yml"]

/-- The entries of the environment ConfigMap that every process sees under their own name. -/
def environmentKeys : List String :=
  ["AMP_RELEASE", "APICAST_REGISTRY_URL", "FORCE_SSL", "PROVIDER_PLAN", "RAILS_ENV",
    "RAILS_LOG_LEVEL", "RAILS_LOG_TO_STDOUT", "SSL_CERT_DIR", "THINKING_SPHINX_PORT",
    "THREESCALE_SANDBOX_PROXY_OPENSSL_VERIFY_MODE", "THREESCALE_SUPERDOMAIN"]

/-- How the portals reach Zync. -/
def zyncConfig : String := String.intercalate "\n"
  ["production:", "  endpoint: 'http://zync:8080'", "  authentication:",
    "    token: \"<%= ENV.fetch('ZYNC_AUTHENTICATION_TOKEN') %>\"", "  connect_timeout: 5",
    "  send_timeout: 5", "  receive_timeout: 10", "  root_url:", ""]

/-- Which features are switched on. -/
def rollingUpdatesConfig : String := String.intercalate "\n"
  ["production:", "  old_charts: false", "  new_provider_documentation: false",
    "  proxy_pro: false", "  instant_bill_plan_change: false", "  service_permissions: true",
    "  async_apicast_deploy: false", "  duplicate_application_id: true",
    "  duplicate_user_key: true", "  plan_changes_wizard: false",
    "  require_cc_on_signup: false", "  apicast_per_service: true", "  policies: true",
    "  policy_registry: true", "  proxy_private_base_path: true", ""]

/-- How services of the cluster are found. -/
def serviceDiscoveryConfig : String := String.intercalate "\n"
  ["production:",
    "  enabled: <%= cluster_token_file_exists = File.exist?(cluster_token_file_path = " ++
      "'/var/run/secrets/kubernetes.io/serviceaccount/token') %>",
    "  server_scheme: 'https'", "  server_host: 'kubernetes.default.svc.cluster.local'",
    "  server_port: 443", "  authentication_method: service_account",
    "  oauth_server_type: builtin", "  client_id:", "  client_secret:", "  timeout: 1",
    "  open_timeout: 1", "  max_retry: 5", "  verify_ssl: <%= OpenSSL::SSL::VERIFY_NONE %>",
    "  bearer_token: \"<%= File.read(cluster_token_file_path) if cluster_token_file_exists %>\"",
    ""]

/-- The labels of shared objects. -/
def labels (o : SystemOptions) : Labels := Labels.component o.appLabel "system"

def elementLabels (o : SystemOptions) (part : String) : Labels :=
  Labels.element o.appLabel "system" part

/-- The variables of the processes and of the hook before a rollout. -/
def baseEnv : List EnvVar :=
  environmentKeys.map (fun key => .ofConfigMap key systemEnvironment key) ++
    [.literal "THINKING_SPHINX_ADDRESS" sphinxName,
      .literal "THINKING_SPHINX_CONFIGURATION_FILE" "db/sphinx/production.conf",
      .literal "MEMCACHE_SERVERS" "system-memcache:11211",
      .ofSecret "DATABASE_URL" databaseSecret databaseUrlField,
      .ofSecret "MASTER_DOMAIN" seedSecret "MASTER_DOMAIN",
      .ofSecret "MASTER_USER" seedSecret "MASTER_USER",
      .ofSecret "MASTER_PASSWORD" seedSecret "MASTER_PASSWORD",
      .ofSecret "ADMIN_ACCESS_TOKEN" seedSecret "ADMIN_ACCESS_TOKEN",
      .ofSecret "USER_LOGIN" seedSecret "ADMIN_USER",
      .ofSecret "USER_PASSWORD" seedSecret "ADMIN_PASSWORD",
      .ofSecret "USER_EMAIL" seedSecret "ADMIN_EMAIL",
      .ofSecret "TENANT_NAME" seedSecret "TENANT_NAME",
      .ofSecret "RECAPTCHA_PUBLIC_KEY" recaptchaSecret "PUBLIC_KEY",
      .ofSecret "RECAPTCHA_PRIVATE_KEY" recaptchaSecret "PRIVATE_KEY",
      .ofSecret "SECRET_KEY_BASE" appSecret "SECRET_KEY_BASE",
      .ofSecret "REDIS_URL" systemRedisSecret systemRedisField,
      .ofSecret "BACKEND_REDIS_URL" backendRedisSecret redisStorageField,
      .ofSecret "BACKEND_ROUTE" listenerSecret listenerRouteField,
      .ofSecret "APICAST_ACCESS_TOKEN" masterGatewaySecret "ACCESS_TOKEN",
      .ofSecret "EVENTS_SHARED_SECRET" eventsHookSecret "PASSWORD",
      .ofSecret "ZYNC_AUTHENTICATION_TOKEN" zyncSecret zyncTokenField,
      .ofSecret "CONFIG_INTERNAL_API_USER" internalApiSecret "username",
      .ofSecret "CONFIG_INTERNAL_API_PASSWORD" internalApiSecret "password"]

/-- The container of one portal, which listens on a port named for its tenant mode. -/
def portal (name mode portText : String) (port : Int32) : Container :=
  let c : Container :=
    { container name image with
      args := some ["env", s!"TENANT_MODE={mode}", s!"PORT={portText}", "container-entrypoint",
        "bundle", "exec", "unicorn", "-c", "config/unicorn.rb"]
      resources := some (.of "1000m" "800Mi" "50m" "600Mi")
      livenessProbe := some
        { Probe.connecting (.named mode) with
          initialDelaySeconds := some 10
          periodSeconds := some 10
          timeoutSeconds := some 10 }
      readinessProbe := some
        { Probe.getting (.named mode) "/check.txt" with
          initialDelaySeconds := some 30
          periodSeconds := some 30
          timeoutSeconds := some 10 } }
  (((c.addEnv baseEnv).addPort mode port).addMount systemStorage storagePath).addMount configVolume
    configPath

/-- A pod that sees the uploaded files and the configuration files. -/
def podWithFiles (containers : List Container) : PodPlan :=
  Catalog.pod containers
    [.claimed systemStorage systemStorage, .ofConfigMap configVolume configName configFiles]

/-- What runs before a rollout of the portals. -/
def deployHook : LifecycleHook :=
  { failurePolicy := "Retry"
    pod := some
      { command := ["bash", "-c", "bundle exec rake boot openshift:deploy"]
        env := baseEnv ++ [.ofSecret "MASTER_ACCESS_TOKEN" seedSecret "MASTER_ACCESS_TOKEN"]
        containerName := masterName
        volumes := [systemStorage] } }

def app (o : SystemOptions) : Resource :=
  workload
    { name := appName
      labels := elementLabels o "app"
      replicas := o.appReplicas
      strategy := .stepwiseAfter deployHook
      watched := ([masterName, providerName, developerName], image)
      pod := podWithFiles
        [portal masterName "master" "3002" 3002, portal providerName "provider" "3000" 3000,
          portal developerName "developer" "3001" 3001] }

def sidekiq (o : SystemOptions) : Resource :=
  let c : Container :=
    { container sidekiqName image with
      args := some ["rake", "sidekiq:worker", "RAILS_MAX_THREADS=25"]
      resources := some (.of "1000m" "2Gi" "100m" "500Mi") }
  let c := ((c.addEnv baseEnv).addMount systemStorage storagePath).addMount configVolume configPath
  workload
    { name := sidekiqName
      labels := elementLabels o "sidekiq"
      replicas := o.sidekiqReplicas
      watched := ([sidekiqName], image)
      pod := podWithFiles [c] }

def sphinx (o : SystemOptions) : Resource :=
  let c : Container :=
    { container sphinxName image with
      args := some ["rake", "openshift:thinking_sphinx:start"]
      resources := some (.of "1000m" "512Mi" "80m" "250Mi")
      livenessProbe := some
        { Probe.connecting (.number 9306) with
          initialDelaySeconds := some 60
          periodSeconds := some 10 } }
  let env : List EnvVar :=
    [.ofConfigMap "RAILS_ENV" systemEnvironment "RAILS_ENV",
      .ofSecret "DATABASE_URL" databaseSecret databaseUrlField,
      .literal "THINKING_SPHINX_ADDRESS" "0.0.0.0",
      .literal "THINKING_SPHINX_CONFIGURATION_FILE" "db/sphinx/production.conf",
      .literal "THINKING_SPHINX_PID_FILE" "db/sphinx/searchd.pid",
      .literal "DELTA_INDEX_INTERVAL" "5",
      .literal "FULL_REINDEX_INTERVAL" "60"]
  workload
    { name := sphinxName
      labels := elementLabels o "sphinx"
      watched := ([sphinxName], image)
      pod := Catalog.pod
        [((c.addPort "sphinx" 9306).addEnv env).addMount sphinxVolume "/opt/system/db/sphinx"]
        [.scratch sphinxVolume] }

def routes (o : SystemOptions) : List Resource :=
  [route "system-provider-admin-route" (elementLabels o "app")
      (.edge s!"{o.tenantName}-admin.{o.wildcardDomain}" providerName "http"),
    route "system-master-admin-route" (elementLabels o "app")
      (.edge s!"{o.masterName}.{o.wildcardDomain}" masterName "http"),
    route "system-developer-route" (elementLabels o "app")
      (.edge s!"{o.tenantName}.{o.wildcardDomain}" developerName "http")]

def secrets (o : SystemOptions) : List Resource :=
  let masterUrl := s!"http://{o.gatewayAccessToken}@{masterName}:3000"
  [secret seedSecret (labels o)
      [("MASTER_DOMAIN", o.masterName), ("MASTER_USER", o.masterUsername),
        ("MASTER_PASSWORD", o.masterPassword), ("MASTER_ACCESS_TOKEN", o.masterAccessToken),
        ("TENANT_NAME", o.tenantName), ("ADMIN_USER", o.adminUsername),
        ("ADMIN_PASSWORD", o.adminPassword), ("ADMIN_EMAIL", o.adminEmail),
        ("ADMIN_ACCESS_TOKEN", o.adminAccessToken)],
    secret masterGatewaySecret (labels o)
      [("ACCESS_TOKEN", o.gatewayAccessToken),
        ("PROXY_CONFIGS_ENDPOINT", s!"{masterUrl}/master/api/proxy/configs"),
        ("BASE_URL", masterUrl)],
    secret appSecret (labels o) [("SECRET_KEY_BASE", o.appSecretKeyBase)],
    secret eventsHookSecret (labels o)
      [("URL", s!"http://{masterName}:3000/master/events/import"),
        ("PASSWORD", o.backendSharedSecret)],
    secret recaptchaSecret (labels o)
      [("PUBLIC_KEY", o.recaptchaPublicKey), ("PRIVATE_KEY", o.recaptchaPrivateKey)],
    secret systemRedisSecret (labels o) [(systemRedisField, o.redisUrl)]]

/-- Storage, services, configuration, routes, secrets and workloads. -/
def objects (o : SystemOptions) : List Resource :=
  [volumeClaim systemStorage (labels o) "ReadWriteMany" "100Mi" o.storageClass,
    service providerName (elementLabels o "provider-ui") appName [⟨"http", 3000, "provider"⟩],
    service masterName (elementLabels o "master-ui") appName [⟨"http", 3000, "master"⟩],
    service developerName (elementLabels o "developer-ui") appName
      [⟨"http", 3000, "developer"⟩],
    service sphinxName (elementLabels o "sphinx") sphinxName [⟨"sphinx", 9306, "sphinx"⟩],
    configMap configName (labels o)
      [("zync.yml", zyncConfig), ("rolling_updates.yml", rollingUpdatesConfig),
        ("service_discovery.yml", serviceDiscoveryConfig)],
    configMap systemEnvironment (labels o)
      [("AMP_RELEASE", o.release), ("APICAST_REGISTRY_URL", o.gatewayRegistryUrl),
        ("FORCE_SSL", "true"), ("PROVIDER_PLAN", "enterprise"), ("RAILS_ENV", "production"),
        ("RAILS_LOG_LEVEL", "info"), ("RAILS_LOG_TO_STDOUT", "true"),
        ("SSL_CERT_DIR", "/etc/pki/tls/certs"), ("THINKING_SPHINX_PORT", "9306"),
        ("THREESCALE_SANDBOX_PROXY_OPENSSL_VERIFY_MODE", "VERIFY_NONE"),
        ("THREESCALE_SUPERDOMAIN", o.wildcardDomain)]] ++
    routes o ++ secrets o ++ [app o, sidekiq o, sphinx o]

/-- Redis may be external, search runs one replica, and object storage may replace the files. -/
def capabilities : Capabilities :=
  { ({} : Capabilities).withEndpoint .systemRedis systemRedisSecret systemRedisField with
    singletonWorkloads := .ofList [sphinxName]
    sharedStorage :=
      [{ volume := systemStorage
         claim := systemStorage
         workloads := .ofList [appName, sidekiqName]
         environmentConfigMap := systemEnvironment }] }

end System

end ApiPlatform.Catalog
