import ApiPlatform.Options.Schema
import ApiPlatform.Template.Bundle
/-!
# Assembly

A bundle is put together from contributions, each with its parameters, its objects and its
capabilities.  Names and identities have to be new; the first failure ends the assembly.
-/

namespace ApiPlatform

/-- What one part of a platform adds to a bundle. -/
structure Contribution where
  name : String
  parameters : List Parameter := []
  objects : Except OptionsError (List Resource) := .ok []
  capabilities : Capabilities := {}

/-- What goes wrong when a bundle is put together. -/
inductive AssemblyError where
  | buildOptions (contribution : String) (source : OptionsError)
  | append (contribution : String) (source : BundleError)
  deriving DecidableEq

instance : Failure AssemblyError where
  label
    | .buildOptions _ _ => "BuildOptions"
    | .append _ _ => "Append"
  message
    | .buildOptions name _ => s!"failed to build the options of adapter {Text.quote name}"
    | .append name _ => s!"adapter {Text.quote name} conflicts with an earlier adapter"
  causes
    | .buildOptions _ source => Failure.trace source
    | .append _ source => Failure.trace source

namespace Bundle

/-- Appends parameters in order. -/
def pushParameters : List Parameter → Bundle → Except BundleError Bundle
  | [], b => .ok b
  | p :: rest, b => do
    let b ← b.pushParameter p
    pushParameters rest b

/-- Appends objects in order. -/
def pushObjects : List Resource → Bundle → Except BundleError Bundle
  | [], b => .ok b
  | r :: rest, b => do
    let b ← b.pushObject r
    pushObjects rest b

/-- Appends a contribution: parameters first, then objects, then capabilities. -/
def contribute (b : Bundle) (c : Contribution) : Except AssemblyError Bundle := do
  let b ← (pushParameters c.parameters b).mapError (.append c.name)
  let objects ← c.objects.mapError (.buildOptions c.name)
  let b ← (pushObjects objects b).mapError (.append c.name)
  .ok (b.mergeCapabilities c.capabilities)

/-- Appends contributions in order. -/
def contributeAll : List Contribution → Bundle → Except AssemblyError Bundle
  | [], b => .ok b
  | c :: rest, b => do
    let b ← b.contribute c
    contributeAll rest b

def assemble (cs : List Contribution) : Except AssemblyError Bundle := contributeAll cs {}

end Bundle

end ApiPlatform
