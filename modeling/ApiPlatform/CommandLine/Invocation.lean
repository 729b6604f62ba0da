import ApiPlatform.CommandLine.Scan
import ApiPlatform.Store.Remote
import ApiPlatform.Template.Request
/-!
# Invocations

The commands of the program: `crd` shows the definition of the gateway resource, `run` watches
gateways and reconciles them, and `template` writes the template of a variant.
-/

namespace ApiPlatform.CommandLine

def applicationName : String := "amp-operator"

inductive LogFormat where
  | plain
  | json
  deriving DecidableEq, Repr

namespace LogFormat

def name : LogFormat → String
  | .plain => "plain"
  | .json => "json"

def ofName? (s : String) : Option LogFormat := [plain, json].find? (·.name = s)

end LogFormat

/-- What is asked for when gateways are to be watched. -/
structure RunRequest where
  watched : WatchNamespace
  /-- The name that is recorded on every object that is written. -/
  fieldManager : String
  deriving DecidableEq

/-- What is to be done. -/
inductive Task where
  | showDefinition
  | run (request : RunRequest)
  | template (request : TemplateRequest)
  deriving DecidableEq

/-- A command line that was understood. -/
structure Invocation where
  logFormat : LogFormat
  task : Task
  deriving DecidableEq

def helpOption : Setting :=
  { name := "help", summary := "Print help", long := some "help", short := some 'h'
    role := .help }

def versionOption : Setting :=
  { name := "version", summary := "Print version", long := some "version", short := some 'V'
    role := .version }

/-- The form of log lines. -/
def logFormatOption : Setting :=
  { name := "log-format", summary := "Format of the log lines written to stdout"
    long := some "log-format", environment := some "AMP_OPERATOR_LOG_FORMAT"
    accepts := fun s => (LogFormat.ofName? s).isSome }

def watchNamespaceOption : Setting :=
  { name := "watch-namespace"
    summary := "Provides a specific namespace to watch (instead of watching all namespaces)"
    long := some "watch-namespace", environment := some "WATCH_NAMESPACE" }

/-- The name that is recorded on written objects. -/
def fieldManagerOption : Setting :=
  { name := "field-manager", summary := "Field manager recorded on every object the operator writes"
    long := some "field-manager", environment := some "FIELD_MANAGER" }

def variantArgument : Setting :=
  { name := "variant", summary := "The variant of the template"
    accepts := fun s => (Variant.ofName? s).isSome }

/-- Whether product images come from the curated registry. -/
def productizedOption : Setting :=
  { name := "productized", summary := "Point product images at the curated registry"
    long := some "productized", role := .flag, environment := some "AMP_TEMPLATE_PRODUCTIZED"
    accepts := ["true", "false"].contains }

/-- Whether parameters are filled in. -/
def processOption : Setting :=
  { name := "process"
    summary := "Resolve every parameter and print the objects instead of the template"
    long := some "process", role := .flag }

def parameterOption : Setting :=
  { name := "param", summary := "Parameter value used with --process, as NAME=VALUE"
    long := some "param", short := some 'p', role := .repeated, needs := ["process"] }

/-- The file that is written. -/
def outputOption : Setting :=
  { name := "output", summary := "Write to this file instead of stdout"
    long := some "output", short := some 'o', accepts := (· ≠ "") }

/-- What the program understands. -/
def grammar : Grammar where
  root :=
    { name := applicationName, options := [logFormatOption, helpOption, versionOption] }
  commands :=
    [{ name := "crd", summary := "Print CRD objects", options := [logFormatOption, helpOption] },
      { name := "run", summary := "Run the operator"
        options := [watchNamespaceOption, fieldManagerOption, logFormatOption, helpOption] },
      { name := "template", summary := "Render a deployment template"
        options :=
          [productizedOption, processOption, parameterOption, outputOption, logFormatOption,
            helpOption]
        arguments := [variantArgument] }]

/-- What the `run` command asks for. -/
def RunRequest.ofGiven (g : Given) : RunRequest where
  watched := .ofText ((g.value? watchNamespaceOption.name).getD "")
  fieldManager := (g.value? fieldManagerOption.name).getD applicationName

/-- What the `template` command asks for. -/
def templateRequest? (g : Given) : Option TemplateRequest := do
  let name ← g.value? variantArgument.name
  let variant ← Variant.ofName? name
  some
    { variant
      productized := g.flag productizedOption.name
      process := g.flag processOption.name
      parameters := g.values parameterOption.name
      output := g.value? outputOption.name }

namespace Invocation

/-- Reads a command line without the name of the program. -/
def parse (environment : String → Option String) (words : List String) :
    Except UsageError Invocation := do
  let p ← grammar.parse environment words
  let logFormat := ((p.shared? logFormatOption.name).bind LogFormat.ofName?).getD .plain
  match p.command with
  | "crd" => .ok ⟨logFormat, .showDefinition⟩
  | "run" => .ok ⟨logFormat, .run (.ofGiven p.behind)⟩
  | "template" =>
    match templateRequest? p.behind with
    | some request => .ok ⟨logFormat, .template request⟩
    | none => .error .missingArgument
  | _ => .error .unknownCommand

end Invocation

end ApiPlatform.CommandLine
