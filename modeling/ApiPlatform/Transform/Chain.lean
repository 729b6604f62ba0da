import ApiPlatform.Template.Bundle
/-!
# Transforms

A transform changes a bundle for one kind of deployment.  A chain runs its transforms by stage,
and those of one stage in the order in which they were added.
-/

namespace ApiPlatform

/-- What goes wrong when a bundle is transformed. -/
inductive TransformError where
  | missingEnvironmentConfigMap (volume configMap : String)
  deriving DecidableEq

instance : Failure TransformError where
  label
    | .missingEnvironmentConfigMap _ _ => "MissingEnvironmentConfigMap"
  message
    | .missingEnvironmentConfigMap volume configMap =>
      s!"shared storage {Text.quote volume} declares the environment config map " ++
        s!"{Text.quote configMap} which is not part of the bundle"

/-- When a transform runs.  Evaluation is last, so that it sees every workload. -/
inductive TransformStage where
  | productized
  | highAvailability
  | externalStorage
  | evaluation
  deriving DecidableEq, Repr

def TransformStage.rank (s : TransformStage) : Nat := s.ctorIdx

/-- A named change of bundles. -/
structure Transform where
  name : String
  stage : TransformStage
  run : Bundle → Except TransformError Bundle

/-- Transforms in the order in which they run. -/
structure TransformChain where
  transforms : List Transform := []

namespace TransformChain

/-- Puts a transform before the first one of a later stage. -/
def insertByStage (t : Transform) : List Transform → List Transform
  | [] => [t]
  | u :: rest =>
    if t.stage.rank < u.stage.rank then t :: u :: rest else u :: insertByStage t rest

/-- Adds a transform behind all others of its stage. -/
def add (c : TransformChain) (t : Transform) : TransformChain := ⟨insertByStage t c.transforms⟩

/-- The chain of some transforms, added in order. -/
def ofList (ts : List Transform) : TransformChain := ts.foldl add {}

/-- The names in the order in which the transforms run. -/
def names (c : TransformChain) : List String := c.transforms.map (·.name)

def isEmpty (c : TransformChain) : Bool := c.transforms.isEmpty

/-- Runs transforms one after the other; the first that fails decides. -/
def runAll : List Transform → Bundle → Except TransformError Bundle
  | [], b => .ok b
  | t :: rest, b => do
    let b ← t.run b
    runAll rest b

def apply (c : TransformChain) (b : Bundle) : Except TransformError Bundle :=
  runAll c.transforms b

end TransformChain

end ApiPlatform
