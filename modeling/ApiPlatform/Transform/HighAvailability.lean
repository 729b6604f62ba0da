import ApiPlatform.Catalog.External
import ApiPlatform.Transform.Chain
/-!
# High availability

Moves databases and caches out of the cluster and scales the workloads that may have replicas.  In
order: the declared database objects go, the declared connection secrets are replaced, parameters
that only configured the databases go, workloads are scaled, and the addresses of the external
databases are written into the declared entries.
-/

namespace ApiPlatform.HighAvailability

open Catalog (HighAvailabilityOptions)

def dropDatabases (b : Bundle) : Bundle :=
  b.capabilities.externalDatabaseObjects.keys.foldl Bundle.removeObject b

/-- Replaces each connection secret that is declared. -/
def replaceConnections (o : HighAvailabilityOptions) (b : Bundle) : Bundle :=
  (Catalog.HighAvailability.objects o).foldl
    (fun b r =>
      if r.kind = .secret ∧ b.capabilities.connectionSecrets.contains r.name then b.upsertObject r
      else b)
    b

def dropParameters (b : Bundle) : Bundle :=
  b.capabilities.externalDatabaseParameters.keys.foldl Bundle.removeParameter b

/-- Scales a workload unless it is declared as a singleton. -/
def scale (replicas : Int32) (c : Capabilities) (r : Resource) : Resource :=
  if r.isWorkload ∧ ¬ c.singletonWorkloads.contains r.name then r.withReplicas replicas else r

/-- The Secret with a text entry; other objects stay. -/
def writeEntry (field url : String) : Resource → Resource
  | .secret s => .secret { s with stringData := some ((s.stringData.getD .empty).insert field url) }
  | r => r

/-- Writes the addresses of one endpoint. -/
def writeEndpoint (url : String) (fields : List EndpointField) (b : Bundle) : Bundle :=
  fields.foldl
    (fun b f => b.modifyObject (.template .secret f.secret) (writeEntry f.field url)) b

/-- Writes the addresses of every declared endpoint. -/
def writeEndpoints (o : HighAvailabilityOptions) (b : Bundle) : Bundle :=
  b.capabilities.externalEndpoints.entries.foldl (fun b e => writeEndpoint (o.url e.1) e.2 b) b

def transform (o : HighAvailabilityOptions) : Transform :=
  { name := "high-availability"
    stage := .highAvailability
    run := fun b =>
      .ok (writeEndpoints o
        ((dropParameters (replaceConnections o (dropDatabases b))).mapObjects
          (scale o.replicas b.capabilities))) }

end ApiPlatform.HighAvailability
