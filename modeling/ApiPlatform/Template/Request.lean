import ApiPlatform.Template.Processing
import ApiPlatform.Template.Variant
import ApiPlatform.Yaml.Document
/-!
# Template requests

What is asked for when a template is written: the template itself, or its objects with every
parameter filled in, as YAML.
-/

namespace ApiPlatform

structure TemplateRequest where
  variant : Variant
  /-- Whether product images come from the curated registry. -/
  productized : Bool := false
  /-- Whether the objects are wanted, with every parameter filled in. -/
  process : Bool := false
  /-- Values of parameters, as `NAME=VALUE`. -/
  parameters : List String := []
  /-- The file that is written; without one the text is shown. -/
  output : Option String := none
  deriving DecidableEq

/-- Why a request is not met. -/
inductive RequestError where
  | invalidParameter (argument : String)
  | render (variant : Variant) (source : VariantError)
  | process (variant : Variant) (source : BundleError)
  | createOutput (path reason : String)
  | flushOutput (path reason : String)
  deriving DecidableEq

instance : Failure RequestError where
  label
    | .invalidParameter _ => "InvalidParameter"
    | .render _ _ => "Render"
    | .process _ _ => "Process"
    | .createOutput _ _ => "CreateOutput"
    | .flushOutput _ _ => "FlushOutput"
  message
    | .invalidParameter argument =>
      s!"parameter {Text.quote argument} is not of the form NAME=VALUE"
    | .render v _ => s!"failed to render the {v.name} template"
    | .process v _ => s!"failed to process the {v.name} template"
    | .createOutput path _ => s!"failed to create output file {Text.quote path}"
    | .flushOutput path _ => s!"failed to flush output file {Text.quote path}"
  causes
    | .invalidParameter _ => []
    | .render _ source => Failure.trace source
    | .process _ source => Failure.trace source
    | .createOutput _ reason => [reason]
    | .flushOutput _ reason => [reason]

namespace TemplateRequest

/-- A name and a value, divided by the first equals sign. -/
def assignment (argument : String) : Except RequestError (String × String) :=
  let cs := argument.toList
  let name := cs.takeWhile (· ≠ '=')
  match cs.drop name.length with
  | _ :: value => .ok (String.ofList name, String.ofList value)
  | [] => .error (.invalidParameter argument)

/-- The values of parameters; of two for one name the last counts. -/
def parameterValues (r : TemplateRequest) : Except RequestError (SortedMap String String) := do
  let assignments ← r.parameters.mapM assignment
  .ok (.ofList assignments)

/-- The text that is asked for. -/
def document (r : TemplateRequest) (d : Draws) : Except RequestError String := do
  if r.process then
    let values ← r.parameterValues
    let bundle ← (r.variant.bundle r.productized).mapError (.render r.variant)
    let processed ← (bundle.process values d).mapError (.process r.variant)
    .ok (Yaml.stream processed.documents)
  else
    let template ← (r.variant.template r.productized).mapError (.render r.variant)
    .ok (Yaml.document true template.toJson)

/-- The text that is asked for, once it is known whether the file cannot be created, and why. -/
def emit (r : TemplateRequest) (refusal : Option String) (d : Draws) :
    Except RequestError String :=
  match r.output, refusal with
  | some path, some reason => .error (.createOutput path reason)
  | _, _ => r.document d

end TemplateRequest

end ApiPlatform
