import ApiPlatform.Transform.Chain
/-!
# Evaluation

Lets a bundle run on small clusters: no container asks for resources or is limited.
-/

namespace ApiPlatform.Evaluation

/-- The container without requests and limits. -/
def relax (c : Container) : Container := { c with resources := none }

/-- The pod with every container relaxed. -/
def relaxPod (s : PodSpec) : PodSpec :=
  { s with
    containers := s.containers.map relax
    initContainers := s.initContainers.map (·.map relax) }

def transform : Transform :=
  { name := "evaluation"
    stage := .evaluation
    run := fun b => .ok (b.mapObjects (Resource.modifyPodSpec relaxPod)) }

end ApiPlatform.Evaluation
