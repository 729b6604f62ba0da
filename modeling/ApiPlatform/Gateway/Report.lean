import ApiPlatform.Gateway.Reconcile
/-!
# Reporting runs

What is logged about a run: one event, whose level says whether someone has to act.
-/

namespace ApiPlatform

/-- How much an event matters. -/
inductive LogLevel where
  | info
  | warn
  | error
  deriving DecidableEq, Repr

def LogLevel.name : LogLevel → String
  | .info => "INFO"
  | .warn => "WARN"
  | .error => "ERROR"

/-- One line of a log. -/
structure LogEvent where
  level : LogLevel
  message : String
  controller : String
  object : Option String := none
  category : Option String := none
  error : Option String := none
  deriving DecidableEq

/-- How a run for a gateway ended. -/
inductive RunOutcome where
  | finished
  | failed (e : GatewayError)
  /-- The gateway is not known here. -/
  | notFound

/-- A gateway in words. -/
def Gateway.reference (ns name : String) : String :=
  s!"{Gateway.kindName}.{Gateway.version}.{Gateway.group}/{name}.{ns}"

/-- The controller that keeps gateways in place. -/
def Gateway.controllerName : String := "apicast.apps.3scale.net"

/-- The event of a run.  What only a change of configuration can mend is an error; what another
run may mend is a warning. -/
def RunOutcome.event (outcome : RunOutcome) (controller ns name : String) : LogEvent :=
  let object := Gateway.reference ns name
  match outcome with
  | .finished =>
    { level := .info, message := "Reconciled object", controller, object := some object }
  | .failed e =>
    let (level, message) :=
      if e.isConfiguration then (.error, "Object is misconfigured")
      else (.warn, "Failed to reconcile object, retrying")
    { level, message, controller
      object := some object
      category := some (Failure.label e)
      error := some (Failure.message e) }
  | .notFound =>
    { level := .error
      message := "Failed to reconcile object"
      controller
      error := some
        s!"tried to reconcile object {object} that was not found in local store" }

end ApiPlatform
