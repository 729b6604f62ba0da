import ApiPlatform.Catalog.Capabilities
import ApiPlatform.Catalog.Names
import ApiPlatform.Catalog.Parts
import ApiPlatform.Options.Schema
/-!
# Gateways of the platform

The staging and the production gateway, and the router that leads the hosts of a wildcard domain
to the gateway of their tenant.
-/

namespace ApiPlatform.Catalog

/-- Behaviour and scale of the two gateways. -/
structure GatewaysOptions where
  appLabel : String
  tenantName : String
  wildcardDomain : String
  managementApi : String
  opensslVerify : String
  responseCodes : String
  stagingReplicas : Int32
  productionReplicas : Int32
  deriving DecidableEq

/-- The domain that the wildcard router serves. -/
structure WildcardRouterOptions where
  appLabel : String
  wildcardDomain : String
  wildcardPolicy : String
  deriving DecidableEq

namespace GatewaysOptions

def schema : OptionSchema :=
  { title := "ApicastOptions"
    fields :=
      [.requires "app_label", .requires "tenant_name", .requires "wildcard_domain",
        .defaults "management_api" (.text "status"), .defaults "openssl_verify" (.text "false"),
        .defaults "response_codes" (.text "true"), .defaults "staging_replicas" (.count 1),
        .defaults "production_replicas" (.count 1)] }

def ofRecord (r : OptionRecord) : GatewaysOptions :=
  { appLabel := r.text "app_label"
    tenantName := r.text "tenant_name"
    wildcardDomain := r.text "wildcard_domain"
    managementApi := r.text "management_api"
    opensslVerify := r.text "openssl_verify"
    responseCodes := r.text "response_codes"
    stagingReplicas := r.count "staging_replicas"
    productionReplicas := r.count "production_replicas" }

end GatewaysOptions

namespace WildcardRouterOptions

def schema : OptionSchema :=
  { title := "WildcardRouterOptions"
    fields :=
      [.requires "app_label", .requires "wildcard_domain",
        .defaults "wildcard_policy" (.text "None")] }

def ofRecord (r : OptionRecord) : WildcardRouterOptions :=
  { appLabel := r.text "app_label"
    wildcardDomain := r.text "wildcard_domain"
    wildcardPolicy := r.text "wildcard_policy" }

end WildcardRouterOptions

namespace Gateways

/-- The ConfigMap with the environment that both gateways share. -/
def environmentName : String := "apicast-environment"

def image : String := "amp-apicast:latest"

/-- The port for requests. -/
def port : Int32 := 8080

/-- The port for health checks. -/
def managementPort : Int32 := 8090

/-- What tells the two gateways apart. -/
structure Environment where
  name : String
  stage : String
  loader : String
  cacheSeconds : String

/-- Reads its configuration on every request. -/
def staging : Environment := ⟨"apicast-staging", "staging", "lazy", "0"⟩

/-- Reads its configuration once and keeps it for five minutes. -/
def production : Environment := ⟨"apicast-production", "production", "boot", "300"⟩

def server (e : Environment) : Container :=
  let c : Container :=
    { container e.name image with
      resources := some (.of "100m" "128Mi" "50m" "64Mi")
      livenessProbe := some
        { Probe.getting (.number managementPort) "/status/live" with
          initialDelaySeconds := some 10
          periodSeconds := some 10
          timeoutSeconds := some 5 }
      readinessProbe := some
        { Probe.getting (.number managementPort) "/status/ready" with
          initialDelaySeconds := some 15
          periodSeconds := some 30
          timeoutSeconds := some 5 } }
  ((c.addPort "gateway" port).addPort "management" managementPort).addEnv
    [.ofSecret "THREESCALE_PORTAL_ENDPOINT" masterGatewaySecret "PROXY_CONFIGS_ENDPOINT",
      .ofSecret "BACKEND_ENDPOINT_OVERRIDE" listenerSecret listenerServiceField,
      .literal "APICAST_CONFIGURATION_LOADER" e.loader,
      .literal "APICAST_CONFIGURATION_CACHE" e.cacheSeconds,
      .literal "THREESCALE_DEPLOYMENT_ENV" e.stage,
      .ofConfigMap "APICAST_MANAGEMENT_API" environmentName "APICAST_MANAGEMENT_API",
      .ofConfigMap "OPENSSL_VERIFY" environmentName "OPENSSL_VERIFY",
      .ofConfigMap "APICAST_RESPONSE_CODES" environmentName "APICAST_RESPONSE_CODES"]

def environmentObjects (o : GatewaysOptions) (e : Environment) (replicas : Int32) :
    List Resource :=
  let labels := Labels.element o.appLabel "apicast" e.stage
  [workload
      { name := e.name
        labels
        replicas
        watched := ([e.name], image)
        pod := Catalog.pod [server e] [] },
    service e.name labels e.name
      [⟨"gateway", port, "gateway"⟩, ⟨"management", managementPort, "management"⟩],
    route s!"api-{e.name}" labels
      (.edge s!"api-{o.tenantName}-{e.name}.{o.wildcardDomain}" e.name "gateway")]

def objects (o : GatewaysOptions) : List Resource :=
  environmentObjects o staging o.stagingReplicas ++
    environmentObjects o production o.productionReplicas ++
    [configMap environmentName (Labels.component o.appLabel "apicast")
      [("APICAST_MANAGEMENT_API", o.managementApi), ("OPENSSL_VERIFY", o.opensslVerify),
        ("APICAST_RESPONSE_CODES", o.responseCodes)]]

end Gateways

namespace WildcardRouter

/-- The workload, container, service and route of the router. -/
def name : String := "apicast-wildcard-router"

def image : String := "amp-wildcard-router:latest"

def port : Int32 := 8080

def objects (o : WildcardRouterOptions) : List Resource :=
  let labels := Labels.element o.appLabel "apicast" "wildcard-router"
  let c : Container :=
    { container name image with
      resources := some (.of "500m" "64Mi" "120m" "32Mi")
      livenessProbe := some
        { Probe.connecting (.named "http") with
          initialDelaySeconds := some 30
          periodSeconds := some 10 } }
  let server := (c.addPort "http" port).addEnv
    [.ofSecret "API_HOST" masterGatewaySecret "BASE_URL"]
  [workload { name, labels, watched := ([name], image), pod := Catalog.pod [server] [] },
    service name labels name [⟨"http", port, "http"⟩],
    route name labels
      { RouteSpec.edge s!"apicast-wildcard.{o.wildcardDomain}" name "http" with
        wildcardPolicy := some o.wildcardPolicy }]

end WildcardRouter

end ApiPlatform.Catalog
