import ApiPlatform.Failure
import ApiPlatform.Json.Codec
import ApiPlatform.Resource.Object
import ApiPlatform.Template.Generator
import ApiPlatform.Template.Placeholder
import ApiPlatform.Text.Quoted
/-!
# Parameters

The knobs of a template.  A parameter takes the value that is supplied, else its default, else a
generated value; without any of them a required one is an error and another one is empty.
-/

namespace ApiPlatform

/-- What goes wrong when a bundle is filled or processed. -/
inductive BundleError where
  | duplicateParameter (name : String)
  | duplicateObject (key : ObjectKey)
  | missingParameterValue (name : String)
  | invalidGeneratorExpression (name expression : String)
  | serializeObject (key : ObjectKey)
  | deserializeObject (key : ObjectKey)
  deriving DecidableEq

instance : Failure BundleError where
  label
    | .duplicateParameter _ => "DuplicateParameter"
    | .duplicateObject _ => "DuplicateObject"
    | .missingParameterValue _ => "MissingParameterValue"
    | .invalidGeneratorExpression _ _ => "InvalidGeneratorExpression"
    | .serializeObject _ => "SerializeObject"
    | .deserializeObject _ => "DeserializeObject"
  message
    | .duplicateParameter name => s!"parameter {Text.quote name} is declared twice"
    | .duplicateObject key => s!"object {key.text} is generated twice"
    | .missingParameterValue name =>
      s!"required parameter {Text.quote name} has no value, default or generator"
    | .invalidGeneratorExpression name expression =>
      s!"parameter {Text.quote name} has an unsupported generator expression " ++
        Text.quote expression
    | .serializeObject key => s!"failed to serialize object {key.text}"
    | .deserializeObject key => s!"failed to read processed object {key.text} back"

/-- A knob of a template. -/
structure Parameter where
  name : String
  displayName : Option String := none
  description : Option String := none
  /-- The default. -/
  value : Option String := none
  /-- How a value is generated; only expressions are known. -/
  generate : Option String := none
  /-- The expression. -/
  source : Option String := none
  required : Bool := false
  deriving DecidableEq

namespace Parameter

def codec : Codec Parameter :=
  ((Fields.required "name" .string).and <|
    (Fields.optional "displayName" .string).and <|
    (Fields.optional "description" .string).and <|
    (Fields.optional "value" .string).and <|
    (Fields.optional "generate" .string).and <|
    (Fields.optional "from" .string).and <|
    Fields.absentAs "required" .bool false).iso
    (fun (name, displayName, description, value, generate, source, required) =>
      ⟨name, displayName, description, value, generate, source, required⟩)
    (fun p => (p.name, p.displayName, p.description, p.value, p.generate, p.source, p.required))
    (fun _ => rfl) |>.recordCodec

/-- The word for generation by expression. -/
def byExpression : String := "expression"

/-- A parameter that needs a value. -/
def needed (name : String) (description : Option String := none) : Parameter :=
  { name, description, required := true }

def withValue (p : Parameter) (value : String) : Parameter := { p with value := some value }

def generated (p : Parameter) (expression : String) : Parameter :=
  { p with generate := some byExpression, source := some expression }

/-- The text that refers to the parameter. -/
def placeholder (p : Parameter) : String := Placeholder.text p.name

/-- The expression of the generator that a parameter falls back on. -/
def expression? (p : Parameter) : Option String :=
  if p.generate = some byExpression then p.source else none

/-- The value of a parameter, and the draws that are left. -/
def resolve (p : Parameter) (supplied : Option String) (d : Draws) :
    Except BundleError (String × Draws) :=
  match supplied.or p.value with
  | some value => .ok (value, d)
  | none =>
    match p.expression? with
    | some expression =>
      match Generator.Expression.ofText? expression with
      | some e => .ok (e.generate d, d.drop e.length)
      | none => .error (.invalidGeneratorExpression p.name expression)
    | none => if p.required then .error (.missingParameterValue p.name) else .ok ("", d)

end Parameter

end ApiPlatform
