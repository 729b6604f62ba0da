import ApiPlatform.Resource.Metadata
/-!
# Label sets

Every generated object carries the application label and the component label.  The pods of a
workload also carry the selector label, the only one that a service selects on.
-/

namespace ApiPlatform.Labels

/-- Key of the application label. -/
def appKey : String := "app"

def componentKey : String := "threescale_component"

/-- Key of the label that tells the workloads of one component apart. -/
def elementKey : String := "threescale_component_element"

/-- Key of the label that selects the pods of a workload. -/
def workloadKey : String := "deploymentConfig"

/-- The labels of every object of a component. -/
def component (app name : String) : Labels :=
  .ofList [(appKey, app), (componentKey, name)]

/-- The labels of one element of a component. -/
def element (app name part : String) : Labels :=
  (component app name).insert elementKey part

/-- The labels that select the pods of a workload. -/
def workloadSelector (workload : String) : Labels :=
  .ofList [(workloadKey, workload)]

/-- The labels of the pods of a workload: those of the object and the selector. -/
def pod (objectLabels : Labels) (workload : String) : Labels :=
  objectLabels.union (workloadSelector workload)

theorem contains_appKey_component (app name : String) : (component app name).contains appKey := by
  simp [component, SortedMap.contains_iff_mem_keys, SortedMap.mem_keys_ofList]

theorem contains_componentKey_component (app name : String) :
    (component app name).contains componentKey := by
  simp [component, SortedMap.contains_iff_mem_keys, SortedMap.mem_keys_ofList]

theorem contains_element {app name part key : String}
    (h : (component app name).contains key) : (element app name part).contains key := by
  rw [SortedMap.contains_iff_mem_keys] at h ⊢
  exact SortedMap.mem_keys_insert.2 (.inr h)

/-- The pods of a workload carry the label that selects them. -/
theorem get?_workloadKey_pod (objectLabels : Labels) (workload : String) :
    (pod objectLabels workload).get? workloadKey = some workload := by
  simp [pod, workloadSelector, SortedMap.ofList, SortedMap.insertMany]

end ApiPlatform.Labels
