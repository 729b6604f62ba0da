import ApiPlatform.Catalog.Capabilities
import ApiPlatform.Collections.OrderedMap
import ApiPlatform.Template.Parameter
/-!
# Bundles

The parameters and objects of a template in the making, each in insertion order and found by its
name or identity, with the capabilities that their components declared.
-/

namespace ApiPlatform

/-- Parameters, objects and capabilities. -/
structure Bundle where
  parameters : OrderedMap String Parameter := .empty
  objects : OrderedMap ObjectKey Resource := .empty
  capabilities : Capabilities := {}
  deriving DecidableEq

namespace Bundle

def parameter? (b : Bundle) (name : String) : Option Parameter := b.parameters.get? name

def object? (b : Bundle) (key : ObjectKey) : Option Resource := b.objects.get? key

/-- Appends a parameter; its name has to be new. -/
def pushParameter (b : Bundle) (p : Parameter) : Except BundleError Bundle :=
  if b.parameters.contains p.name then .error (.duplicateParameter p.name)
  else .ok { b with parameters := b.parameters.insert p.name p }

/-- Appends an object; its identity has to be new. -/
def pushObject (b : Bundle) (r : Resource) : Except BundleError Bundle :=
  if b.objects.contains r.key then .error (.duplicateObject r.key)
  else .ok { b with objects := b.objects.insert r.key r }

/-- Puts an object in the place of the one with its identity, or at the end. -/
def upsertObject (b : Bundle) (r : Resource) : Bundle :=
  { b with objects := b.objects.insert r.key r }

def removeObject (b : Bundle) (key : ObjectKey) : Bundle :=
  { b with objects := b.objects.erase key }

def removeParameter (b : Bundle) (name : String) : Bundle :=
  { b with parameters := b.parameters.erase name }

/-- Changes every object; the change may not touch an identity. -/
def mapObjects (f : Resource → Resource) (b : Bundle) : Bundle :=
  { b with objects := b.objects.mapValues f }

/-- Changes the object of an identity, if there is one; the change may not touch the identity. -/
def modifyObject (b : Bundle) (key : ObjectKey) (f : Resource → Resource) : Bundle :=
  { b with objects := b.objects.modify key f }

/-- Sets or clears the default of a parameter, if there is one of that name. -/
def setDefault (b : Bundle) (name : String) (value : Option String) : Bundle :=
  { b with parameters := b.parameters.modify name ({ · with value }) }

/-- Adds declarations to those already made. -/
def mergeCapabilities (b : Bundle) (c : Capabilities) : Bundle :=
  { b with capabilities := b.capabilities.merge c }

end Bundle

end ApiPlatform
