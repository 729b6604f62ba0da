import ApiPlatform.Resource.Kind
/-!
# Significant fields

Live objects carry much that a cluster added, so they are never compared as a whole.  Each
managed kind has a short list of fields that count.  `ManagedKind.copyOnto` copies those that
differ onto the live object and names them; everything else of the live object stays.
-/

namespace ApiPlatform

/-- The kinds whose objects are kept in a wanted state. -/
inductive ManagedKind where
  | deployment
  | service
  | ingress
  | route
  | secret
  | configMap
  deriving DecidableEq, Repr

namespace ManagedKind

/-- The kind by itself. -/
abbrev kind : ManagedKind → Kind
  | .deployment => .deployment
  | .service => .service
  | .ingress => .ingress
  | .route => .route
  | .secret => .secret
  | .configMap => .configMap

def ofKind? : Kind → Option ManagedKind
  | .deployment => some .deployment
  | .service => some .service
  | .ingress => some .ingress
  | .route => some .route
  | .secret => some .secret
  | .configMap => some .configMap
  | _ => none

end ManagedKind

/-- A field that counts, in the order of the paths. -/
inductive SignificantField where
  | data
  | spec
  | ports
  | podLabels
  | envFrom
  | image
  | serviceAccount
  | stringData
  deriving DecidableEq, Repr

/-- Where a field stands in the objects that have it. -/
def SignificantField.path : SignificantField → String
  | .data => "data"
  | .spec => "spec"
  | .ports => "spec.ports"
  | .podLabels => "spec.template.metadata.labels"
  | .envFrom => "spec.template.spec.containers[0].envFrom"
  | .image => "spec.template.spec.containers[0].image"
  | .serviceAccount => "spec.template.spec.serviceAccountName"
  | .stringData => "stringData"

/-- The fields whose test holds. -/
def changedFields (tests : List (SignificantField × Bool)) : List SignificantField :=
  (tests.filter (·.2)).map (·.1)

/-- The values of a Secret as texts: its bytes, where they are no text with replacement
characters, and over them its texts. -/
def Secret.strings (s : Secret) : SortedMap String String :=
  ((s.data.getD .empty).mapValues Bytes.toTextLossy).union (s.stringData.getD .empty)

/-- The live Secret with the wanted texts and no bytes, so that values that are no longer wanted
disappear. -/
def Secret.copyOnto (wanted live : Secret) : Secret × List SignificantField :=
  if live.strings = wanted.strings then (live, [])
  else ({ live with data := none, stringData := some wanted.strings }, [.stringData])

def ConfigMap.copyOnto (wanted live : ConfigMap) : ConfigMap × List SignificantField :=
  ({ live with data := wanted.data }, changedFields [(.data, live.data ≠ wanted.data)])

def Service.copyOnto (wanted live : Service) : Service × List SignificantField :=
  let spec := live.spec.getD {}
  let ports := wanted.spec.bind (·.ports)
  ({ live with spec := some { spec with ports } }, changedFields [(.ports, spec.ports ≠ ports)])

def Ingress.copyOnto (wanted live : Ingress) : Ingress × List SignificantField :=
  ({ live with spec := wanted.spec }, changedFields [(.spec, live.spec ≠ wanted.spec)])

def Route.copyOnto (wanted live : Route) : Route × List SignificantField :=
  ({ live with spec := wanted.spec }, changedFields [(.spec, live.spec ≠ wanted.spec)])

/-- The live containers, of which the first gets the wanted image and the wanted sources of
variables; the wanted container as a whole where there is none. -/
def Container.copyOntoFirst (wanted : Option Container) (live : List Container) :
    List Container × Bool × Bool :=
  match wanted, live with
  | none, live => (live, false, false)
  | some w, [] => ([w], true, true)
  | some w, c :: rest =>
    ({ c with image := w.image, envFrom := w.envFrom } :: rest, c.image ≠ w.image,
      c.envFrom ≠ w.envFrom)

/-- The live Deployment with the wanted pod labels, account, image and sources of variables. -/
def Deployment.copyOnto (wanted live : Deployment) : Deployment × List SignificantField :=
  let template := wanted.spec.map (·.template)
  let labels := (template.bind (·.metadata)).bind (·.labels)
  let pod := template.bind (·.spec)
  let account := pod.bind (·.serviceAccountName)
  let spec := live.spec.getD {}
  let metadata := spec.template.metadata.getD {}
  let livePod := spec.template.spec.getD {}
  let (containers, imageDiffers, envFromDiffers) :=
    Container.copyOntoFirst (pod.bind (·.containers.head?)) livePod.containers
  ({ live with
      spec := some
        { spec with
          template :=
            { spec.template with
              metadata := some { metadata with labels }
              spec := some { livePod with containers, serviceAccountName := account } } } },
    changedFields
      [(.podLabels, metadata.labels ≠ labels), (.envFrom, envFromDiffers),
        (.image, imageDiffers), (.serviceAccount, livePod.serviceAccountName ≠ account)])

/-- The live object with the significant fields of the wanted one, and the fields that differed. -/
def ManagedKind.copyOnto : (m : ManagedKind) → (wanted live : m.kind.Object) →
    m.kind.Object × List SignificantField
  | .deployment, (wanted : Deployment), (live : Deployment) => wanted.copyOnto live
  | .service, (wanted : Service), (live : Service) => wanted.copyOnto live
  | .ingress, (wanted : Ingress), (live : Ingress) => wanted.copyOnto live
  | .route, (wanted : Route), (live : Route) => wanted.copyOnto live
  | .secret, (wanted : Secret), (live : Secret) => wanted.copyOnto live
  | .configMap, (wanted : ConfigMap), (live : ConfigMap) => wanted.copyOnto live

end ApiPlatform
