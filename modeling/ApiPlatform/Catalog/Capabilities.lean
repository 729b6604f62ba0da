import ApiPlatform.Resource.Object
/-!
# Capabilities

The names that a component owns and lets transforms replace, scale or strip.  Transforms touch
nothing else.
-/

namespace ApiPlatform

/-- A connection to a database or cache that may be hosted outside the cluster. -/
inductive ExternalEndpoint where
  | systemDatabase
  | systemRedis
  | backendRedisStorage
  | backendRedisQueues
  deriving DecidableEq, Repr

/-- An image that has a productized counterpart. -/
inductive ProductImage where
  | gateway
  | backend
  | system
  | wildcardRouter
  | zync
  deriving DecidableEq, Repr

/-- A Secret entry that holds the address of an endpoint. -/
structure EndpointField where
  secret : String
  field : String
  deriving DecidableEq

abbrev Names := SortedMap String Unit

def Names.ofList (names : List String) : Names := SortedMap.ofList (names.map (·, ()))

/-- A volume that several workloads share and that object storage can replace. -/
structure SharedStorage where
  volume : String
  claim : String
  /-- The template parameter that configures nothing but the claim. -/
  parameter : Option String := none
  workloads : Names := .empty
  /-- The ConfigMap that holds the environment of the workloads. -/
  environmentConfigMap : String
  deriving DecidableEq

namespace ExternalEndpoint

def all : List ExternalEndpoint :=
  [.systemDatabase, .systemRedis, .backendRedisStorage, .backendRedisQueues]

def name : ExternalEndpoint → String
  | .systemDatabase => "SystemDatabase"
  | .systemRedis => "SystemRedis"
  | .backendRedisStorage => "BackendRedisStorage"
  | .backendRedisQueues => "BackendRedisQueues"

def ofName? (s : String) : Option ExternalEndpoint := all.find? (·.name = s)

instance : Ord ExternalEndpoint := ⟨compareOn (·.ctorIdx)⟩

instance : Std.TransOrd ExternalEndpoint := inferInstanceAs (Std.TransCmp (compareOn _))

instance : Std.LawfulEqOrd ExternalEndpoint where
  eq_of_compare {a b} h := by cases a <;> cases b <;> first | rfl | exact absurd h (by decide)

end ExternalEndpoint

namespace ProductImage

def all : List ProductImage := [.gateway, .backend, .system, .wildcardRouter, .zync]

def name : ProductImage → String
  | .gateway => "Apicast"
  | .backend => "Backend"
  | .system => "System"
  | .wildcardRouter => "WildcardRouter"
  | .zync => "Zync"

def ofName? (s : String) : Option ProductImage := all.find? (·.name = s)

end ProductImage

instance : Std.TransOrd ObjectKey :=
  inferInstanceAs (Std.TransCmp (compareLex (compareOn _) (compareLex (compareOn _)
    (compareLex (compareOn _) (compareOn _)))))

instance : Std.LawfulEqOrd ObjectKey where
  eq_of_compare {a b} h := by
    obtain ⟨kind, ns, name⟩ := a
    obtain ⟨kind', ns', name'⟩ := b
    obtain ⟨hkind, h⟩ := Ordering.then_eq_eq.1 h
    obtain ⟨hsome, h⟩ := Ordering.then_eq_eq.1 h
    obtain ⟨hnamespace, hname⟩ := Ordering.then_eq_eq.1 h
    change compare kind.ctorIdx kind'.ctorIdx = .eq at hkind
    change compare ns.isSome ns'.isSome = .eq at hsome
    change compare (ns.getD "") (ns'.getD "") = .eq at hnamespace
    change compare name name' = .eq at hname
    have hkinds : kind = kind' := by
      have := Std.LawfulEqCmp.eq_of_compare hkind
      cases kind <;> cases kind' <;> first | rfl | cases this
    have hnamespaces : ns = ns' := by
      have := Std.LawfulEqCmp.eq_of_compare hsome
      cases ns <;> cases ns' <;>
        first | rfl | exact congrArg some (Std.LawfulEqCmp.eq_of_compare hnamespace) | cases this
    rw [hkinds, hnamespaces, Std.LawfulEqCmp.eq_of_compare hname]

/-- What a component lets transforms do. -/
structure Capabilities where
  /-- Objects that host an internal database or cache. -/
  externalDatabaseObjects : SortedMap ObjectKey Unit := .empty
  /-- Parameters that configure nothing but those objects. -/
  externalDatabaseParameters : Names := .empty
  /-- Secrets that an external database replaces as a whole. -/
  connectionSecrets : Names := .empty
  /-- Where the addresses of the endpoints are written. -/
  externalEndpoints : SortedMap ExternalEndpoint (List EndpointField) := .empty
  /-- Workloads that run exactly one replica. -/
  singletonWorkloads : Names := .empty
  /-- Volumes that object storage can replace. -/
  sharedStorage : List SharedStorage := []
  /-- Image streams of product images. -/
  productImageStreams : SortedMap String ProductImage := .empty
  /-- Parameters that default to a product image. -/
  productImageParameters : SortedMap String ProductImage := .empty
  deriving DecidableEq

namespace Capabilities

/-- Appends the fields of an endpoint to those already declared. -/
def addEndpointFields (m : SortedMap ExternalEndpoint (List EndpointField))
    (endpoint : ExternalEndpoint) (fields : List EndpointField) :
    SortedMap ExternalEndpoint (List EndpointField) :=
  m.insert endpoint ((m.get? endpoint).getD [] ++ fields)

/-- Both declarations together; where they map one name twice the second wins. -/
def merge (a b : Capabilities) : Capabilities :=
  { externalDatabaseObjects := a.externalDatabaseObjects.union b.externalDatabaseObjects
    externalDatabaseParameters := a.externalDatabaseParameters.union b.externalDatabaseParameters
    connectionSecrets := a.connectionSecrets.union b.connectionSecrets
    externalEndpoints := b.externalEndpoints.entries.foldl
      (fun m e => addEndpointFields m e.1 e.2) a.externalEndpoints
    singletonWorkloads := a.singletonWorkloads.union b.singletonWorkloads
    sharedStorage := a.sharedStorage ++ b.sharedStorage
    productImageStreams := a.productImageStreams.union b.productImageStreams
    productImageParameters := a.productImageParameters.union b.productImageParameters }

/-- Declares template objects of a kind as hosts of a database or cache. -/
def withDatabaseObjects (c : Capabilities) (kind : Kind) (names : List String) : Capabilities :=
  { c with externalDatabaseObjects :=
      c.externalDatabaseObjects.insertMany (names.map fun n => (.template kind n, ())) }

/-- Declares parameters that configure nothing but a database or cache. -/
def withDatabaseParameters (c : Capabilities) (names : List String) : Capabilities :=
  { c with externalDatabaseParameters :=
      c.externalDatabaseParameters.insertMany (names.map (·, ())) }

/-- Declares a Secret entry that holds the address of an endpoint. -/
def withEndpoint (c : Capabilities) (endpoint : ExternalEndpoint) (secret field : String) :
    Capabilities :=
  { c with externalEndpoints := addEndpointFields c.externalEndpoints endpoint [{ secret, field }] }

end Capabilities

end ApiPlatform
