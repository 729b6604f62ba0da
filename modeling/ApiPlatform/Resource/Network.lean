import ApiPlatform.Resource.Pod
/-!
# Services, ingresses and routes

The resources that lead requests to pods.
-/

namespace ApiPlatform

/-- A port that a service offers. -/
structure ServicePort where
  appProtocol : Option String := none
  name : Option String := none
  nodePort : Option Int32 := none
  port : Int32 := 0
  protocol : Option String := none
  targetPort : Option PortRef := none
  deriving DecidableEq, Inhabited

/-- What a service offers and which pods answer. -/
structure ServiceSpec where
  clusterIP : Option String := none
  ports : Option (List ServicePort) := none
  selector : Option Labels := none
  type : Option String := none
  deriving DecidableEq, Inhabited

/-- A stable address for the pods that a selector finds. -/
structure Service where
  metadata : ObjectMeta := {}
  spec : Option ServiceSpec := none
  deriving DecidableEq, Inhabited

/-- A port of the service behind an ingress, by name or number. -/
structure BackendPort where
  name : Option String := none
  number : Option Int32 := none
  deriving DecidableEq, Inhabited

/-- The service behind an ingress. -/
structure BackendService where
  name : String := ""
  port : Option BackendPort := none
  deriving DecidableEq, Inhabited

/-- An object of the same namespace by its kind and name. -/
structure TypedRef where
  apiGroup : Option String := none
  kind : String := ""
  name : String := ""
  deriving DecidableEq, Inhabited

/-- What stands behind an ingress: a service, or an object of another kind. -/
structure IngressBackend where
  resource : Option TypedRef := none
  service : Option BackendService := none
  deriving DecidableEq, Inhabited

/-- Where requests to one path go. -/
structure IngressPath where
  backend : IngressBackend := {}
  path : Option String := none
  pathType : String := ""
  deriving DecidableEq, Inhabited

/-- Where requests to one host go. -/
structure IngressRule where
  host : Option String := none
  http : Option (List IngressPath) := none
  deriving DecidableEq, Inhabited

/-- Hosts that are encrypted, and the Secret with their certificate. -/
structure IngressTls where
  hosts : Option (List String) := none
  secretName : Option String := none
  deriving DecidableEq, Inhabited

/-- The rules of an ingress, and what answers where no rule does. -/
structure IngressSpec where
  defaultBackend : Option IngressBackend := none
  ingressClassName : Option String := none
  rules : Option (List IngressRule) := none
  tls : Option (List IngressTls) := none
  deriving DecidableEq, Inhabited

/-- Leads requests from outside the cluster to services. -/
structure Ingress where
  metadata : ObjectMeta := {}
  spec : Option IngressSpec := none
  deriving DecidableEq, Inhabited

/-- What a route leads to. -/
structure RouteTarget where
  kind : String := ""
  name : String := ""
  deriving DecidableEq, Inhabited

/-- How a route ends encryption. -/
structure RouteTls where
  termination : String := ""
  insecureEdgeTerminationPolicy : Option String := none
  deriving DecidableEq, Inhabited

/-- The host, target and encryption of a route. -/
structure RouteSpec where
  host : Option String := none
  target : RouteTarget := {}
  port : Option PortRef := none
  tls : Option RouteTls := none
  wildcardPolicy : Option String := none
  deriving DecidableEq, Inhabited

/-- Leads requests for a host to one service. -/
structure Route where
  metadata : ObjectMeta := {}
  spec : RouteSpec := {}
  deriving DecidableEq, Inhabited

def ServicePort.codec : Codec ServicePort :=
  ((Fields.optional "appProtocol" .string).and <|
    (Fields.optional "name" .string).and <|
    (Fields.optional "nodePort" .int32).and <|
    (Fields.defaulted "port" .int32 0).and <|
    (Fields.optional "protocol" .string).and <|
    Fields.optional "targetPort" PortRef.codec).iso
    (fun (appProtocol, name, nodePort, port, protocol, target) =>
      ⟨appProtocol, name, nodePort, port, protocol, target⟩)
    (fun p => (p.appProtocol, p.name, p.nodePort, p.port, p.protocol, p.targetPort))
    (fun _ => rfl) |>.codec

def ServiceSpec.codec : Codec ServiceSpec :=
  ((Fields.optional "clusterIP" .string).and <|
    (Fields.optional "ports" (.list ServicePort.codec)).and <|
    (Fields.optional "selector" Labels.codec).and <|
    Fields.optional "type" .string).iso
    (fun (clusterIP, ports, selector, type) => ⟨clusterIP, ports, selector, type⟩)
    (fun s => (s.clusterIP, s.ports, s.selector, s.type)) (fun _ => rfl) |>.codec

def Service.codec : Codec Service :=
  (((Fields.constant "apiVersion" "v1").and (Fields.constant "kind" "Service")).and <|
    (Fields.defaulted "metadata" ObjectMeta.codec {}).and <|
    Fields.optional "spec" ServiceSpec.codec).iso
    (fun (_, metadata, spec) => ⟨metadata, spec⟩)
    (fun s => (((), ()), s.metadata, s.spec)) (fun _ => rfl) |>.codec

def BackendPort.codec : Codec BackendPort :=
  ((Fields.optional "name" .string).and <| Fields.optional "number" .int32).iso
    (fun (name, number) => ⟨name, number⟩) (fun p => (p.name, p.number)) (fun _ => rfl) |>.codec

def BackendService.codec : Codec BackendService :=
  ((Fields.defaulted "name" .string "").and <| Fields.optional "port" BackendPort.codec).iso
    (fun (name, port) => ⟨name, port⟩) (fun s => (s.name, s.port)) (fun _ => rfl) |>.codec

def TypedRef.codec : Codec TypedRef :=
  ((Fields.optional "apiGroup" .string).and <|
    (Fields.defaulted "kind" .string "").and <|
    Fields.defaulted "name" .string "").iso
    (fun (group, kind, name) => ⟨group, kind, name⟩) (fun r => (r.apiGroup, r.kind, r.name))
    (fun _ => rfl) |>.codec

def IngressBackend.codec : Codec IngressBackend :=
  ((Fields.optional "resource" TypedRef.codec).and <|
    Fields.optional "service" BackendService.codec).iso
    (fun (resource, service) => ⟨resource, service⟩) (fun b => (b.resource, b.service))
    (fun _ => rfl) |>.codec

def IngressPath.codec : Codec IngressPath :=
  ((Fields.defaulted "backend" IngressBackend.codec {}).and <|
    (Fields.optional "path" .string).and <|
    Fields.defaulted "pathType" .string "").iso
    (fun (backend, path, pathType) => ⟨backend, path, pathType⟩)
    (fun p => (p.backend, p.path, p.pathType)) (fun _ => rfl) |>.codec

def IngressRule.codec : Codec IngressRule :=
  ((Fields.optional "host" .string).and <|
    Fields.optional "http" (Fields.defaulted "paths" (.list IngressPath.codec) []).codec).iso
    (fun (host, http) => ⟨host, http⟩) (fun r => (r.host, r.http)) (fun _ => rfl) |>.codec

def IngressTls.codec : Codec IngressTls :=
  ((Fields.optional "hosts" (.list .string)).and <| Fields.optional "secretName" .string).iso
    (fun (hosts, secret) => ⟨hosts, secret⟩) (fun t => (t.hosts, t.secretName)) (fun _ => rfl)
    |>.codec

def IngressSpec.codec : Codec IngressSpec :=
  ((Fields.optional "defaultBackend" IngressBackend.codec).and <|
    (Fields.optional "ingressClassName" .string).and <|
    (Fields.optional "rules" (.list IngressRule.codec)).and <|
    Fields.optional "tls" (.list IngressTls.codec)).iso
    (fun (fallback, className, rules, tls) => ⟨fallback, className, rules, tls⟩)
    (fun s => (s.defaultBackend, s.ingressClassName, s.rules, s.tls)) (fun _ => rfl) |>.codec

def Ingress.codec : Codec Ingress :=
  (((Fields.constant "apiVersion" "networking.k8s.io/v1").and
      (Fields.constant "kind" "Ingress")).and <|
    (Fields.defaulted "metadata" ObjectMeta.codec {}).and <|
    Fields.optional "spec" IngressSpec.codec).iso
    (fun (_, metadata, spec) => ⟨metadata, spec⟩)
    (fun i => (((), ()), i.metadata, i.spec)) (fun _ => rfl) |>.codec

def RouteTarget.codec : Codec RouteTarget :=
  ((Fields.required "kind" .string).and <| Fields.required "name" .string).iso
    (fun (kind, name) => ⟨kind, name⟩) (fun t => (t.kind, t.name)) (fun _ => rfl) |>.recordCodec

def RouteTls.codec : Codec RouteTls :=
  ((Fields.required "termination" .string).and <|
    Fields.optional "insecureEdgeTerminationPolicy" .string).iso
    (fun (termination, policy) => ⟨termination, policy⟩)
    (fun t => (t.termination, t.insecureEdgeTerminationPolicy)) (fun _ => rfl) |>.recordCodec

def RouteSpec.codec : Codec RouteSpec :=
  ((Fields.optional "host" .string).and <|
    (Fields.required "to" RouteTarget.codec).and <|
    (Fields.optional "port" (Fields.required "targetPort" PortRef.codec).recordCodec).and <|
    (Fields.optional "tls" RouteTls.codec).and <|
    Fields.optional "wildcardPolicy" .string).iso
    (fun (host, target, port, tls, wildcard) => ⟨host, target, port, tls, wildcard⟩)
    (fun s => (s.host, s.target, s.port, s.tls, s.wildcardPolicy)) (fun _ => rfl) |>.recordCodec

def Route.codec : Codec Route :=
  (((Fields.label "apiVersion" "route.openshift.io/v1").and (Fields.label "kind" "Route")).and <|
    (Fields.required "metadata" ObjectMeta.codec).and <|
    Fields.required "spec" RouteSpec.codec).iso
    (fun (_, metadata, spec) => ⟨metadata, spec⟩)
    (fun r => (((), ()), r.metadata, r.spec)) (fun _ => rfl) |>.codec

/-- A route for `host` that ends encryption at the edge and leads to a named port of a service. -/
def RouteSpec.edge (host service targetPort : String) : RouteSpec :=
  { host := some host
    target := { kind := "Service", name := service }
    port := some (.named targetPort)
    tls := some { termination := "edge", insecureEdgeTerminationPolicy := some "Allow" } }

end ApiPlatform
