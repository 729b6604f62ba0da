import ApiPlatform.Failure
import ApiPlatform.Json.Codec
import ApiPlatform.Text.Quoted
/-!
# Option records

Components are configured in two steps: values are set in any order and any number of times, and
`OptionSchema.build` then checks and completes them once.  A required field has to hold a value
that is not the empty string, an optional one has a default, and an omittable one may stay unset.
-/

namespace ApiPlatform

/-- A value of an option field. -/
inductive OptionValue where
  | text (s : String)
  | count (n : Int32)
  | flag (b : Bool)
  deriving DecidableEq

/-- The type of an option field. -/
inductive OptionType where
  | text
  | count
  | flag
  deriving DecidableEq

/-- What becomes of a field that was not set. -/
inductive Presence where
  | required
  | optional (fallback : OptionValue)
  | omittable
  deriving DecidableEq

/-- A field of an option record. -/
structure OptionField where
  name : String
  type : OptionType := .text
  presence : Presence := .required
  deriving DecidableEq

/-- The fields of an option record, in the order in which they are checked. -/
structure OptionSchema where
  title : String
  fields : List OptionField
  deriving DecidableEq

/-- Why an option record cannot be built. -/
inductive OptionsError where
  | missingRequiredField (options field : String)
  deriving DecidableEq

instance : Failure OptionsError where
  label
    | .missingRequiredField _ _ => "MissingRequiredField"
  message
    | .missingRequiredField options field =>
      s!"{options}: required field {Text.quote field} is not set"

/-- Values set so far, first to last. -/
abbrev OptionCalls := List (String × OptionValue)

/-- The fields of a checked record in declaration order; an unset omittable field has no value. -/
abbrev OptionRecord := List (String × Option OptionValue)

namespace OptionValue

/-- Whether a required field may hold the value: an empty string counts as unset. -/
def isPresent : OptionValue → Bool
  | .text s => s ≠ ""
  | _ => true

def toJson : OptionValue → Json
  | .text s => .str s
  | .count n => .int n.toInt
  | .flag b => .bool b

def ofJson? (type : OptionType) (j : Json) : Option OptionValue :=
  match type with
  | .text => (Codec.string.decode j).map .text
  | .count => (Codec.int32.decode j).map .count
  | .flag => (Codec.bool.decode j).map .flag

end OptionValue

/-- The value that a field was given last. -/
def OptionCalls.last? (calls : OptionCalls) (field : String) : Option OptionValue :=
  calls.reverse.lookup field

namespace OptionField

def requires (name : String) : OptionField := { name }

def defaults (name : String) (fallback : OptionValue) : OptionField :=
  { name
    type := match fallback with
      | .text _ => .text
      | .count _ => .count
      | .flag _ => .flag
    presence := .optional fallback }

def omits (name : String) : OptionField := { name, presence := .omittable }

/-- The value of a field in the record. -/
def resolve (title : String) (f : OptionField) (calls : OptionCalls) :
    Except OptionsError (Option OptionValue) :=
  match f.presence with
  | .required =>
    match (calls.last? f.name).filter (·.isPresent) with
    | some v => .ok (some v)
    | none => .error (.missingRequiredField title f.name)
  | .optional fallback => .ok (some ((calls.last? f.name).getD fallback))
  | .omittable => .ok (calls.last? f.name)

end OptionField

namespace OptionSchema

/-- Resolves fields in order; the first that fails decides. -/
def resolveFields (title : String) (calls : OptionCalls) :
    List OptionField → Except OptionsError OptionRecord
  | [] => .ok []
  | f :: rest => do
    let v ← f.resolve title calls
    let record ← resolveFields title calls rest
    .ok ((f.name, v) :: record)

/-- Checks and completes the values set so far. -/
def build (s : OptionSchema) (calls : OptionCalls) : Except OptionsError OptionRecord :=
  resolveFields s.title calls s.fields

def field? (s : OptionSchema) (name : String) : Option OptionField :=
  s.fields.find? (·.name = name)

end OptionSchema

namespace OptionRecord

/-- The text in a field. -/
def text? (r : OptionRecord) (name : String) : Option String :=
  match r.lookup name with
  | some (some (.text s)) => some s
  | _ => none

/-- The text in a field that always has one. -/
def text (r : OptionRecord) (name : String) : String := (r.text? name).getD ""

/-- The number in a field that always has one. -/
def count (r : OptionRecord) (name : String) : Int32 :=
  match r.lookup name with
  | some (some (.count n)) => n
  | _ => 0

/-- The truth value in a field that always has one. -/
def flag (r : OptionRecord) (name : String) : Bool :=
  match r.lookup name with
  | some (some (.flag b)) => b
  | _ => false

end OptionRecord

end ApiPlatform
