import ApiPlatform.Template.Contributions
import ApiPlatform.Template.Document
import ApiPlatform.Transform.Evaluation
import ApiPlatform.Transform.ExternalStorage
import ApiPlatform.Transform.HighAvailability
import ApiPlatform.Transform.Productized
/-!
# Variants

The kinds of deployment that a template is written for, each with its contributions and
transforms.
-/

namespace ApiPlatform

/-- A kind of deployment. -/
inductive Variant where
  /-- Every component, with databases in the cluster. -/
  | standard
  /-- Without resource requests and limits. -/
  | evaluation
  /-- With external databases and scaled workloads. -/
  | highAvailability
  /-- With files in object storage. -/
  | objectStorage
  deriving DecidableEq, Repr

/-- What goes wrong when the bundle of a variant is made. -/
inductive VariantError where
  | assemble (variant : Variant) (source : AssemblyError)
  | transformerOptions (variant : Variant) (source : OptionsError)
  | transform (variant : Variant) (source : TransformError)
  deriving DecidableEq

namespace Variant

def all : List Variant := [.standard, .evaluation, .highAvailability, .objectStorage]

def name : Variant → String
  | .standard => "amp"
  | .evaluation => "amp-eval"
  | .highAvailability => "amp-ha"
  | .objectStorage => "amp-s3"

def ofName? (s : String) : Option Variant := all.find? (·.name = s)

def templateName : Variant → String
  | .standard => "3scale-api-management"
  | .evaluation => "3scale-api-management-eval"
  | .highAvailability => "3scale-api-management-ha"
  | .objectStorage => "3scale-api-management-s3"

/-- What a variant's template says about itself. -/
def description : Variant → String
  | .standard => "3scale API Management main system"
  | .evaluation => "3scale API Management main system (Evaluation)"
  | .highAvailability => "3scale API Management main system with external databases"
  | .objectStorage =>
    "3scale API Management main system with shared file storage in AWS S3."

/-- What a variant is put together from, in order. -/
def contributions : Variant → List Contribution
  | .standard | .evaluation => Contributions.base
  | .highAvailability => Contributions.base ++ [Contributions.highAvailability]
  | .objectStorage => Contributions.base ++ [Contributions.objectStorage]

/-- The curated images of a productized template. -/
def productizedCalls : OptionCalls :=
  [("amp_release", Contributions.ref "AMP_RELEASE"),
    ("apicast_image", .text "registry.access.redhat.com/3scale-amp25/apicast-gateway"),
    ("backend_image", .text "registry.access.redhat.com/3scale-amp25/backend"),
    ("router_image", .text "registry.access.redhat.com/3scale-amp22/wildcard-router"),
    ("system_image", .text "registry.access.redhat.com/3scale-amp25/system"),
    ("zync_image", .text "registry.access.redhat.com/3scale-amp25/zync")]

/-- The transform that curates images, if it is asked for. -/
def curation (productized : Bool) : Except OptionsError (List Transform) :=
  if productized then do
    let r ← ProductizedOptions.schema.build productizedCalls
    .ok [Productized.transform (.ofRecord r)]
  else .ok []

/-- The transform that belongs to a variant. -/
def adaptation : Variant → Except OptionsError (List Transform)
  | .standard => .ok []
  | .evaluation => .ok [Evaluation.transform]
  | .highAvailability => do
    let r ← Catalog.HighAvailabilityOptions.schema.build Contributions.highAvailabilityCalls
    .ok [HighAvailability.transform (.ofRecord r)]
  | .objectStorage => do
    let r ← Catalog.ObjectStorageOptions.schema.build Contributions.objectStorageCalls
    .ok [ExternalStorage.transform (.ofRecord r)]

def transforms (v : Variant) (productized : Bool) : Except VariantError TransformChain := do
  let first ← (curation productized).mapError (.transformerOptions v)
  let second ← v.adaptation.mapError (.transformerOptions v)
  .ok (.ofList (first ++ second))

/-- The bundle of a variant before its transforms. -/
def assembled (v : Variant) : Except VariantError Bundle :=
  (Bundle.assemble v.contributions).mapError (.assemble v)

def bundle (v : Variant) (productized : Bool) : Except VariantError Bundle := do
  let b ← v.assembled
  let chain ← v.transforms productized
  (chain.apply b).mapError (.transform v)

/-- The annotations of a variant's template. -/
def annotations (v : Variant) : Labels :=
  .ofList
    [("openshift.io/display-name", "3scale API Management"), ("iconClass", "icon-3scale"),
      ("description", v.description), ("tags", "integration, api management, 3scale")]

def template (v : Variant) (productized : Bool) : Except VariantError Template :=
  (v.bundle productized).map (·.toTemplate v.templateName v.annotations)

end Variant

instance : Failure VariantError where
  label
    | .assemble _ _ => "Assemble"
    | .transformerOptions _ _ => "TransformerOptions"
    | .transform _ _ => "Transform"
  message
    | .assemble v _ => s!"failed to assemble the {v.name} bundle"
    | .transformerOptions v _ =>
      s!"failed to build the transformer options of the {v.name} variant"
    | .transform v _ => s!"failed to transform the {v.name} bundle"
  causes
    | .assemble _ source => Failure.trace source
    | .transformerOptions _ source => Failure.trace source
    | .transform _ source => Failure.trace source

end ApiPlatform
