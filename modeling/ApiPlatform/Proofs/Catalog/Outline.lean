import ApiPlatform.Catalog.Component
import ApiPlatform.Proofs.Template.References
/-!
# Outlines of components

The options of a component fill in values: addresses, passwords, sizes, replica counts.  What its
objects are called, what they refer to and what they offer is the same for all options, so it can
be read off the objects for any one record.
-/

namespace ApiPlatform

open Catalog

/-- The part of an object that takes part in references. -/
structure Outline where
  key : ObjectKey
  needs : List Need := []
  fields : List String := []
  servicePorts : List ServicePort := []
  selector : Option Labels := none
  portNames : List String := []
  volumes : List Volume := []
  mounts : List String := []
  hookVolumes : List String := []

namespace Resource

/-- The labels by which a workload finds its own pods. -/
def podSelector? : Resource → Option Labels
  | .deploymentConfig d => some d.spec.selector
  | _ => none

/-- The outline of an object. -/
def outline (r : Resource) : Outline :=
  { key := r.key
    needs := r.needs
    fields := r.fields
    servicePorts := r.servicePorts
    selector := r.podSelector?
    portNames := r.portNames
    volumes := r.volumes
    mounts := r.mounts
    hookVolumes := r.hookVolumes }

/-- An object with both labels, whose pods carry the labels by which it finds them. -/
structure Labelled (r : Resource) : Prop where
  app : r.HasLabel Labels.appKey
  component : r.HasLabel Labels.componentKey
  pods : ∀ selector ∈ r.podSelector?, ∀ e ∈ selector.entries, r.podLabels.get? e.1 = some e.2

end Resource

namespace Outline

/-- Whether an object of this outline is what a reference asks for; selectors have to agree. -/
def Meets (x : Outline) : Need → Prop
  | .secretEntry name field => x.key = .template .secret name ∧ field ∈ x.fields
  | .configEntry name field => x.key = .template .configMap name ∧ field ∈ x.fields
  | .configMap name => x.key = .template .configMap name
  | .claim name => x.key = .template .persistentVolumeClaim name
  | .pods selector ports => x.selector = some selector ∧ ports ⊆ x.portNames
  | .backend target port =>
    target.kind = "Service" ∧ x.key = .template .service target.name ∧
      ∃ p ∈ x.servicePorts, p.name.isSome ∧ port = p.name.map .named

instance (x : Outline) : DecidablePred x.Meets := fun n => by
  cases n <;> unfold Meets <;> infer_instance

theorem Meets.resource {r : Resource} {n : Need} (h : r.outline.Meets n) (hr : r.Labelled) :
    r.Meets n := by
  cases n with
  | secretEntry name field => exact h
  | configEntry name field => exact h
  | configMap name => exact h
  | claim name => exact h
  | pods selector ports =>
      obtain ⟨hselector, hports⟩ := h
      refine ⟨?_, hr.pods selector hselector, hports⟩
      cases r <;> first | rfl | cases hselector
  | backend target port =>
      obtain ⟨hkind, hkey, p, hp, hsome, hport⟩ := h
      obtain ⟨name, hname⟩ := Option.isSome_iff_exists.1 hsome
      refine ⟨hkind, hkey, p, hp, name, hname, ?_⟩
      rw [hport, hname]
      rfl

end Outline

/-! ## Parts -/

namespace Catalog

theorem keys_eq_names (entries : List (String × String)) :
    (SortedMap.ofList entries).keys = (Names.ofList (entries.map (·.1))).keys := by
  rw [SortedMap.keys_ofList, Names.ofList, List.map_map]
  rfl

theorem outline_secret (name : String) (labels : Labels) (entries : List (String × String)) :
    (secret name labels entries).outline =
      { key := .template .secret name
        fields := (Names.ofList (entries.map (·.1))).keys } := by
  rw [← keys_eq_names]
  rfl

theorem outline_configMap (name : String) (labels : Labels) (entries : List (String × String)) :
    (configMap name labels entries).outline =
      { key := .template .configMap name
        fields := (Names.ofList (entries.map (·.1))).keys } := by
  rw [← keys_eq_names]
  rfl

/-- The outlines of a component are the same for all options. -/
theorem outline_objectsOf {c : Component} (h : c ≠ .objectStorage) (r : OptionRecord) :
    (c.objectsOf r).map (·.outline) = (c.objectsOf []).map (·.outline) := by
  cases c with
  | images => rfl
  | redis =>
      simp only [Component.objectsOf, Redis.objects, List.map_append, List.map_cons,
        outline_configMap]
      rfl
  | backend =>
      simp only [Component.objectsOf, Backend.objects, List.map_cons, outline_secret]
      rfl
  | mysql =>
      simp only [Component.objectsOf, Mysql.objects, List.map_cons, outline_secret,
        outline_configMap]
      rfl
  | memcached => rfl
  | system =>
      simp only [Component.objectsOf, System.objects, System.secrets, List.map_append,
        List.map_cons, outline_secret, outline_configMap]
      rfl
  | zync =>
      simp only [Component.objectsOf, Zync.objects, List.map_cons, outline_secret]
      rfl
  | gateways =>
      simp only [Component.objectsOf, Gateways.objects, List.map_append, List.map_cons,
        outline_configMap]
      rfl
  | wildcardRouter => rfl
  | highAvailability =>
      simp only [Component.objectsOf, HighAvailability.objects, List.map_cons, outline_secret,
        List.map_nil, List.map_cons]
  | objectStorage => exact absurd rfl h

/-! ## Labels -/

/-- Whether both labels are there that every object carries. -/
def Complete (labels : Labels) : Prop :=
  labels.contains Labels.appKey ∧ labels.contains Labels.componentKey

@[simp] theorem complete_component (app name : String) : Complete (Labels.component app name) :=
  ⟨Labels.contains_appKey_component app name, Labels.contains_componentKey_component app name⟩

@[simp] theorem complete_element (app name part : String) :
    Complete (Labels.element app name part) :=
  ⟨Labels.contains_element (complete_component app name).1,
    Labels.contains_element (complete_component app name).2⟩

theorem labelled_of_labels {r : Resource} {labels : Labels} (hlabels : r.labels = some labels)
    (hselector : r.podSelector? = none) (h : Complete labels) : r.Labelled := by
  refine ⟨?_, ?_, ?_⟩
  · unfold Resource.HasLabel
    rw [hlabels]
    exact h.1
  · unfold Resource.HasLabel
    rw [hlabels]
    exact h.2
  · rw [hselector]
    nofun

section Parts

variable {name : String} {labels : Labels} (h : Complete labels)
include h

theorem labelled_secret (entries : List (String × String)) :
    (secret name labels entries).Labelled :=
  labelled_of_labels rfl rfl h

theorem labelled_configMap (entries : List (String × String)) :
    (configMap name labels entries).Labelled :=
  labelled_of_labels rfl rfl h

theorem labelled_service (target : String) (ports : List OfferedPort) :
    (service name labels target ports).Labelled :=
  labelled_of_labels rfl rfl h

theorem labelled_volumeClaim (accessMode size : String) (storageClass : Option String) :
    (volumeClaim name labels accessMode size storageClass).Labelled :=
  labelled_of_labels rfl rfl h

theorem labelled_route (spec : RouteSpec) : (route name labels spec).Labelled :=
  labelled_of_labels rfl rfl h

end Parts

theorem labelled_imageStream (o : ImagesOptions) (name title image : String) :
    (imageStream o name title image).Labelled :=
  labelled_of_labels rfl rfl (complete_component o.appLabel "images")

theorem labelled_workload {p : WorkloadPlan} (h : Complete p.labels) : (workload p).Labelled where
  app := h.1
  component := h.2
  pods selector hselector e he := by
    have heq : selector = Labels.workloadSelector p.name := (Option.some_inj.1 hselector).symm
    subst heq
    have he : e = (Labels.workloadKey, p.name) := List.mem_singleton.1 he
    subst he
    exact Labels.get?_workloadKey_pod p.labels p.name

attribute [local simp] labelled_secret labelled_configMap labelled_service labelled_volumeClaim
  labelled_route labelled_workload

/-- Every object of a component is labelled. -/
theorem labelled_objectsOf (c : Component) (r : OptionRecord) :
    ∀ x ∈ c.objectsOf r, x.Labelled := by
  cases c with
  | images =>
      simp only [Component.objectsOf, Images.objects, List.forall_mem_cons, labelled_imageStream,
        true_and]
      exact ⟨labelled_of_labels rfl rfl (complete_component _ _), List.forall_mem_nil _⟩
  | redis => simp [Component.objectsOf, Redis.objects, Redis.instanceObjects, or_imp, forall_and]
  | backend =>
      simp [Component.objectsOf, Backend.objects, Backend.cron, Backend.listener, Backend.worker,
        Backend.labels]
  | mysql => simp [Component.objectsOf, Mysql.objects, Mysql.labels]
  | memcached => simp [Component.objectsOf, Memcached.objects]
  | system =>
      simp [Component.objectsOf, System.objects, System.routes, System.secrets, System.app,
        System.sidekiq, System.sphinx, System.labels, System.elementLabels, or_imp, forall_and]
  | zync => simp [Component.objectsOf, Zync.objects, Zync.server, Zync.database, Zync.labels]
  | gateways =>
      simp [Component.objectsOf, Gateways.objects, Gateways.environmentObjects, or_imp, forall_and]
  | wildcardRouter => simp [Component.objectsOf, WildcardRouter.objects]
  | highAvailability => simp [Component.objectsOf, HighAvailability.objects]
  | objectStorage => simp [Component.objectsOf, ObjectStorage.objects]

end Catalog

end ApiPlatform
