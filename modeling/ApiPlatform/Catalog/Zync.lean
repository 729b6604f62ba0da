import ApiPlatform.Catalog.Capabilities
import ApiPlatform.Catalog.Names
import ApiPlatform.Catalog.Parts
import ApiPlatform.Options.Schema
/-!
# Zync

The service that copies changes to other systems, with a database of its own that runs exactly one
replica.
-/

namespace ApiPlatform.Catalog

/-- Credentials and scale of Zync. -/
structure ZyncOptions where
  appLabel : String
  authenticationToken : String
  databasePassword : String
  secretKeyBase : String
  replicas : Int32
  deriving DecidableEq

namespace ZyncOptions

def schema : OptionSchema :=
  { title := "ZyncOptions"
    fields :=
      [.requires "app_label", .requires "authentication_token", .requires "database_password",
        .requires "secret_key_base", .defaults "replicas" (.count 1)] }

def ofRecord (r : OptionRecord) : ZyncOptions :=
  { appLabel := r.text "app_label"
    authenticationToken := r.text "authentication_token"
    databasePassword := r.text "database_password"
    secretKeyBase := r.text "secret_key_base"
    replicas := r.count "replicas" }

end ZyncOptions

namespace Zync

/-- The workload, container and service of Zync. -/
def name : String := "zync"

/-- The workload and service of the database. -/
def databaseName : String := "zync-database"

def port : Int32 := 8080

def databasePort : Int32 := 5432

def dataVolume : String := "zync-database-data"

def labels (o : ZyncOptions) (part : String) : Labels := Labels.element o.appLabel "zync" part

def server (o : ZyncOptions) : Resource :=
  let c : Container :=
    { container name "amp-zync:latest" with
      resources := some (.of "1" "512Mi" "150m" "250M")
      livenessProbe := some
        { Probe.getting (.number port) "/status/live" with
          initialDelaySeconds := some 10
          periodSeconds := some 10
          timeoutSeconds := some 60 }
      readinessProbe := some
        { Probe.getting (.number port) "/status/ready" with
          initialDelaySeconds := some 30
          periodSeconds := some 10
          timeoutSeconds := some 10 } }
  let env : List EnvVar :=
    [.literal "RAILS_LOG_TO_STDOUT" "true", .literal "RAILS_ENV" "production",
      .ofSecret "DATABASE_URL" zyncSecret "DATABASE_URL",
      .ofSecret "SECRET_KEY_BASE" zyncSecret "SECRET_KEY_BASE",
      .ofSecret "ZYNC_AUTHENTICATION_TOKEN" zyncSecret zyncTokenField]
  workload
    { name
      labels := labels o "zync"
      replicas := o.replicas
      watched := ([name], "amp-zync:latest")
      pod := Catalog.pod [(c.addPort "http" port).addEnv env] [] }

def database (o : ZyncOptions) : Resource :=
  let c : Container :=
    { container "postgresql" "postgresql:latest" with
      resources := some (.of "250m" "2G" "50m" "250M")
      livenessProbe := some
        { Probe.connecting (.number databasePort) with
          initialDelaySeconds := some 30
          timeoutSeconds := some 1 }
      readinessProbe := some
        { Probe.running ["/bin/sh", "-c",
            "psql -h 127.0.0.1 -U zync -q -d zync_production -c 'SELECT 1'"] with
          initialDelaySeconds := some 5
          timeoutSeconds := some 1 } }
  let env : List EnvVar :=
    [.literal "POSTGRESQL_USER" "zync",
      .ofSecret "POSTGRESQL_PASSWORD" zyncSecret "ZYNC_DATABASE_PASSWORD",
      .literal "POSTGRESQL_DATABASE" "zync_production"]
  workload
    { name := databaseName
      labels := labels o "database"
      strategy := .recreate
      watched := (["postgresql"], "postgresql:latest")
      pod := Catalog.pod
        [((c.addPort "postgresql" databasePort).addEnv env).addMount dataVolume
          "/var/lib/pgsql/data"]
        [.scratch dataVolume] }

def objects (o : ZyncOptions) : List Resource :=
  [secret zyncSecret (Labels.component o.appLabel "zync")
      [("DATABASE_URL",
          s!"postgresql://zync:{o.databasePassword}@{databaseName}:5432/zync_production"),
        ("ZYNC_DATABASE_PASSWORD", o.databasePassword),
        ("SECRET_KEY_BASE", o.secretKeyBase),
        (zyncTokenField, o.authenticationToken)],
    server o,
    database o,
    service name (labels o "zync") name [⟨"http", port, "http"⟩],
    service databaseName (labels o "database") databaseName
      [⟨"postgresql", databasePort, "postgresql"⟩]]

/-- The database runs one replica. -/
def capabilities : Capabilities := { singletonWorkloads := .ofList [databaseName] }

end Zync

end ApiPlatform.Catalog
