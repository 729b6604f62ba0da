import ApiPlatform.Proofs.Template.Edits
import ApiPlatform.Proofs.Template.Influence
import ApiPlatform.Proofs.Template.Variants
import ApiPlatform.Proofs.Transform.Fate
/-!
# Parameters of variants that matter

The bundle of a variant comes about by steps whose options are fixed, so the objects that mention a
parameter can be followed to the end.  Curated images take the place of the image parameters, which
stay declared.  Every other parameter of a variant is mentioned, with curated images or without.
-/

namespace ApiPlatform

open ApiPlatform.Bundle (Step collected fate runSteps)

/-- The names that the ASCII texts of an object mention. -/
def Resource.mentioned (r : Resource) : List (List Char) :=
  r.toJson.strings.flatMap Placeholder.mentioned

theorem Resource.mentions_of_mem_mentioned {r : Resource} {name : String}
    (h : name.toList ∈ r.mentioned) : r.Mentions name := by
  obtain ⟨s, hs, hname⟩ := List.mem_flatMap.1 h
  exact ⟨s, hs, Placeholder.mentions_of_mem_mentioned hname⟩

namespace Contributions

theorem imageNames_eq : imageNames =
    ["AMP_APICAST_IMAGE", "AMP_BACKEND_IMAGE", "AMP_ROUTER_IMAGE", "AMP_SYSTEM_IMAGE",
      "AMP_ZYNC_IMAGE"] := by
  decide

/-- Once images are curated, the streams of images do not refer to their parameters either. -/
theorem fits_curated : ∀ r ∈ images.made,
    (Productized.redirectStream Variant.curatedImages platform r).fits (otherNames all) := by
  decide

theorem fillable_curated {c : Contribution} (hc : c ∈ all) {r : Resource} (hr : r ∈ c.made) :
    (Productized.redirectStream Variant.curatedImages platform r).Fillable
      (· ∈ otherNames all) := by
  by_cases himages : c = images
  · subst himages
    exact Resource.fillable_of_fits (fits_curated r hr)
  · exact Productized.fillable_redirectStream Variant.plain_curatedImages
      (fillable_others hc himages hr)

end Contributions

open Contributions (imageNames imageNames_eq otherNames fillable_curated)

namespace Variant

variable {v : Variant} {productized : Bool} {name : String}

/-! ## The steps to a bundle -/

/-- The transforms of a variant in the order in which they run. -/
def transformations (v : Variant) (productized : Bool) : List Transformation :=
  (if productized then [.productized curatedImages] else []) ++
    match v with
    | .standard => []
    | .evaluation => [.evaluation]
    | .highAvailability => [.highAvailability externalDatabases]
    | .objectStorage => [.externalStorage externalStorage]

theorem transforms_eq (v : Variant) (productized : Bool) :
    v.transforms productized =
      .ok (.ofList ((v.transformations productized).map (·.transform))) := by
  have hcuration : curation productized =
      .ok (if productized then [Productized.transform curatedImages] else []) := by
    cases productized with
    | false => rfl
    | true => exact curation_true
  rw [transforms, hcuration]
  cases v with
  | standard => cases productized <;> rfl
  | evaluation => cases productized <;> rfl
  | highAvailability =>
      rw [adaptation_highAvailability]
      cases productized <;> rfl
  | objectStorage =>
      rw [adaptation_objectStorage]
      cases productized <;> rfl

theorem transforms_ofList (v : Variant) (productized : Bool) :
    (TransformChain.ofList ((v.transformations productized).map (·.transform))).transforms =
      (v.transformations productized).map (·.transform) := by
  cases v <;> cases productized <;> rfl

/-- The steps from what the contributions bring to the bundle of a variant. -/
def steps (v : Variant) (productized : Bool) : List Step :=
  Transformation.stepsOf (v.transformations productized) Contributions.platform

theorem steps_eq (v : Variant) (productized : Bool) :
    v.steps productized =
      (if productized then Productized.steps curatedImages Contributions.platform else []) ++
        v.steps false := by
  cases productized <;> rfl

/-- What the steps make of the contributions of a variant. -/
def transformed (v : Variant) (productized : Bool) : Bundle :=
  runSteps (v.steps productized) (collected v.contributions)

theorem compatible_contributions (v : Variant) : Compatible v.contributions :=
  Contributions.compatible_all.sublist v.contributions_sublist

theorem bundle_eq (v : Variant) (productized : Bool) :
    v.bundle productized = .ok (v.transformed productized) := by
  obtain ⟨b, hbundle, -⟩ := v.exists_fillable productized
  have hassembled : v.assembled = .ok (collected v.contributions) := by
    rw [assembled, Bundle.assemble_eq_collected v.compatible_contributions]
    rfl
  have happly : TransformChain.runAll ((v.transformations productized).map (·.transform))
      (collected v.contributions) = .ok b := by
    rw [bundle, hassembled, transforms_eq] at hbundle
    rw [← transforms_ofList]
    exact Failure.mapError_eq_ok.1 hbundle
  have hcapabilities : (collected v.contributions).capabilities = Contributions.platform :=
    v.mergeAll_contributions
  rw [hbundle, Transformation.eq_runSteps_of_runAll happly, hcapabilities]
  rfl

theorem keepsKeys_steps (v : Variant) (productized : Bool) :
    ∀ s ∈ v.steps productized, s.KeepsKeys := by
  intro s hs
  obtain ⟨t, -, hs⟩ := List.mem_flatMap.1 hs
  exact t.keepsKeys_steps _ s hs

theorem indexed_transformed (v : Variant) (productized : Bool) :
    (v.transformed productized).Indexed :=
  (Bundle.indexed_collected v.compatible_contributions).runSteps (v.keepsKeys_steps productized)

/-- The names of the parameters that leave with their objects. -/
def leavingNames (v : Variant) : List String := (v.steps false).flatMap Step.leavingNames

theorem names_transformed (v : Variant) (productized : Bool) :
    (v.transformed productized).parameters.values.map (·.name) =
      v.names.filter (· ∉ v.leavingNames) := by
  have hnames : (collected v.contributions).parameters.keys = v.names :=
    Bundle.keys_parameters_collected v.contributions
  have hleaving : (v.steps productized).flatMap Step.leavingNames = v.leavingNames := by
    have hcurated := Transformation.leavingNames_steps (.productized curatedImages)
      Contributions.platform
    rw [steps_eq, List.flatMap_append]
    cases productized with
    | false => rfl
    | true =>
        rw [if_pos rfl]
        exact congrArg (· ++ v.leavingNames) hcurated
  rw [(v.indexed_transformed productized).parameters.map_values, transformed,
    Bundle.keys_parameters_runSteps, hnames, hleaving]

/-! ## Parameters that are mentioned -/

/-- The names that some objects mention in the end. -/
def carried (v : Variant) (rs : List Resource) : List (List Char) :=
  rs.flatMap fun r => (fate r.key (v.steps false) (some r)).toList.flatMap (·.mentioned)

/-- Whether some objects mention a name in the end. -/
def carries (v : Variant) (rs : List Resource) (name : String) : Bool :=
  (Text.ascii? name).any (v.carried rs).contains

/-- An object that images do not matter to keeps the names that it mentions, whether images are
curated or not. -/
theorem mentions_of_carries {rs : List Resource}
    (hrs : ∀ r ∈ rs, r ∈ v.contributions.flatMap (·.made) ∧ (productized = true →
      Productized.redirectStream curatedImages Contributions.platform r = r))
    (h : v.carries rs name) : (v.transformed productized).Mentions name := by
  obtain ⟨cs, hascii, hmem⟩ := (Option.any_eq_true _ _).1 h
  rw [← Text.toList_of_ascii? hascii] at hmem
  obtain ⟨r, hr, hmem⟩ := List.mem_flatMap.1 (List.contains_iff_mem.1 hmem)
  obtain ⟨r', hfate, hname⟩ := List.mem_flatMap.1 hmem
  obtain ⟨hmade, hkept⟩ := hrs r hr
  have hbegin : (collected v.contributions).object? r.key = some r := by
    have hindexed := Bundle.indexed_collected v.compatible_contributions
    refine hindexed.objects.get?_eq_some_iff.2 ⟨?_, rfl⟩
    rwa [Bundle.values_objects_collected]
  have hcurated : fate r.key (v.steps productized) (some r) =
      fate r.key (v.steps false) (some r) := by
    rw [steps_eq, Bundle.fate_append]
    cases productized with
    | false => rfl
    | true => rw [if_pos rfl, Productized.fate_steps, Option.map_some, hkept rfl]
  have hend : (v.transformed productized).object? r.key = some r' := by
    rw [transformed, Bundle.object?_runSteps, hbegin, hcurated]
    exact Option.mem_toList.1 hfate
  exact ⟨r', ((v.indexed_transformed productized).objects.get?_eq_some_iff.1 hend).1,
    Resource.mentions_of_mem_mentioned hname⟩

/-- The objects in which parameters are looked for: streams of other images than those of products,
environments, and objects of some other kinds that transforms change little. -/
def carriers (v : Variant) : List Resource :=
  (v.contributions.flatMap (·.made)).filter fun r =>
    (r.kind ∈ [.imageStream, .secret, .persistentVolumeClaim, .route] ∨
        r.metadata.name ∈ [some "apicast-environment", some "system-environment"]) ∧
      r.metadata.name.bind Contributions.platform.productImageStreams.get? = none

theorem carries_others : ∀ v ∈ all, ∀ name ∈ v.names, name ∉ v.leavingNames → name ∉ imageNames →
    v.carries v.carriers name := by
  decide +kernel

theorem carries_images (v : Variant) :
    ∀ name ∈ imageNames, v.carries Contributions.images.made name := by
  cases v <;> decide

theorem mentions_others (hname : name ∈ v.names) (hstays : name ∉ v.leavingNames)
    (hother : name ∉ imageNames) : (v.transformed productized).Mentions name := by
  have hv : v ∈ all := by cases v <;> decide
  have hcarries := carries_others v hv name hname hstays hother
  refine mentions_of_carries (fun r hr => ?_) hcarries
  obtain ⟨hmade, hkept⟩ := List.mem_filter.1 hr
  exact ⟨hmade, fun _ => Productized.redirectStream_of_eq_none (of_decide_eq_true hkept).2⟩

theorem mentions_images (hname : name ∈ imageNames) : (v.transformed false).Mentions name := by
  refine mentions_of_carries (fun r hr => ⟨?_, nofun⟩) (v.carries_images name hname)
  exact List.mem_flatMap.2 ⟨_, v.base_subset (by simp [Contributions.base]), hr⟩

/-! ## Image parameters -/

/-- The options of other transforms do not refer to image parameters. -/
theorem refersTo_otherNames (v : Variant) :
    ∀ t ∈ v.transformations false, t.RefersTo (· ∈ otherNames Contributions.all) := by
  intro t ht
  cases v with
  | standard => cases ht
  | evaluation =>
      obtain rfl := List.mem_singleton.1 ht
      trivial
  | highAvailability =>
      obtain rfl := List.mem_singleton.1 ht
      have hurl : ∀ endpoint ∈ ExternalEndpoint.all,
          Placeholder.fits (spelled (otherNames Contributions.all))
            (externalDatabases.url endpoint) := by
        decide
      refine ⟨fits_of_fits_spelled (by decide), fun endpoint => ?_⟩
      exact fits_of_fits_spelled (hurl endpoint (by cases endpoint <;> decide))
  | objectStorage =>
      obtain rfl := List.mem_singleton.1 ht
      constructor <;> exact fits_of_fits_spelled (by decide)

/-- Once images are curated, the objects refer to other parameters only. -/
theorem fillable_of_mem_curated (v : Variant) (r : Resource)
    (hr : r ∈ (runSteps (Productized.steps curatedImages Contributions.platform)
      (collected v.contributions)).objects.values) :
    r.Fillable (· ∈ otherNames Contributions.all) := by
  have hindexed := Bundle.indexed_collected v.compatible_contributions
  have hkeeps : ∀ s ∈ Productized.steps curatedImages Contributions.platform, s.KeepsKeys :=
    Transformation.keepsKeys_steps (.productized curatedImages) Contributions.platform
  have hfate := (hindexed.runSteps hkeeps).objects.get?_eq_some_iff.2 ⟨hr, rfl⟩
  rw [← Bundle.object?, Bundle.object?_runSteps, Productized.fate_steps] at hfate
  obtain ⟨old, hold, rfl⟩ := Option.map_eq_some_iff.1 hfate
  have hmem := (hindexed.objects.get?_eq_some_iff.1 hold).1
  rw [Bundle.values_objects_collected] at hmem
  obtain ⟨c, hc, hmade⟩ := List.mem_flatMap.1 hmem
  exact fillable_curated (v.contributions_sublist.subset hc) hmade

theorem not_mentions_images (hname : name ∈ imageNames) : ¬(v.transformed true).Mentions name := by
  rintro ⟨r, hr, hmentions⟩
  have hpreserves : ∀ s ∈ v.steps false,
      s.Preserves (·.Fillable (· ∈ otherNames Contributions.all)) := by
    intro s hs
    obtain ⟨t, ht, hs⟩ := List.mem_flatMap.1 hs
    exact (v.refersTo_otherNames t ht).preserves Contributions.tidy_platform s hs
  rw [transformed, steps_eq, if_pos rfl, Bundle.runSteps_append] at hr
  have hfillable := Bundle.forall_runSteps hpreserves v.fillable_of_mem_curated r hr
  have hother := hfillable.declared_of_mentions hmentions
  exact of_decide_eq_true (List.mem_filter.1 hother).2 hname

/-- The parameters that no object of a bundle mentions are the image parameters behind curated
images. -/
theorem mentions_iff (hname : name ∈ (v.transformed productized).parameters.values.map (·.name)) :
    (v.transformed productized).Mentions name ↔ ¬(productized = true ∧ name ∈ imageNames) := by
  rw [names_transformed] at hname
  obtain ⟨hname, hstays⟩ := List.mem_filter.1 hname
  constructor
  · rintro hmentions ⟨rfl, himage⟩
    exact not_mentions_images himage hmentions
  · intro hcurated
    by_cases himage : name ∈ imageNames
    · obtain rfl : productized = false := Bool.eq_false_iff.2 fun h => hcurated ⟨h, himage⟩
      exact mentions_images himage
    · exact mentions_others hname (of_decide_eq_true hstays) himage

theorem capabilities_transformed (v : Variant) (productized : Bool) :
    (v.transformed productized).capabilities = Contributions.platform := by
  rw [transformed, Bundle.capabilities_runSteps]
  exact v.mergeAll_contributions

/-! ## Two sets of values -/

/-- The same value for every parameter but one. -/
def settings (v : Variant) (name value : String) : SortedMap String String :=
  .ofList (v.names.map fun other => (other, if other = name then value else "x"))

theorem get?_settings (v : Variant) (name value other : String) :
    (v.settings name value).get? other =
      if other ∈ v.names then some (if other = name then value else "x") else none := by
  cases hget : (v.settings name value).get? other with
  | some found =>
      obtain ⟨other', hmem, heq⟩ := List.mem_map.1 (SortedMap.mem_of_get?_ofList hget)
      cases heq
      rw [if_pos hmem]
  | none =>
      have hnot : other ∉ v.names := by
        intro hmem
        have hkey : other ∈ (v.settings name value).keys := by
          refine SortedMap.mem_keys_ofList.2 ?_
          rw [List.map_map]
          exact (List.map_id _).symm ▸ hmem
        have hcontains := SortedMap.contains_iff_mem_keys.2 hkey
        rw [SortedMap.contains, hget] at hcontains
        cases hcontains
      rw [if_neg hnot]

theorem suppliedBy_settings (v : Variant) (productized : Bool) (name value : String) :
    (v.transformed productized).SuppliedBy (v.settings name value) := by
  intro p hp
  have hname := List.mem_map_of_mem (f := (·.name)) hp
  rw [names_transformed] at hname
  rw [SortedMap.contains, get?_settings, if_pos (List.mem_filter.1 hname).1]
  rfl

theorem differAt_settings {value value' : String} (hname : name ∈ v.names)
    (hstays : name ∉ v.leavingNames) (hne : value ≠ value') :
    (v.transformed productized).DifferAt name (v.settings name value) (v.settings name value') where
  declared := by
    rw [names_transformed]
    exact List.mem_filter.2 ⟨hname, decide_eq_true hstays⟩
  first := v.suppliedBy_settings productized name value
  second := v.suppliedBy_settings productized name value'
  others other hother := by
    rw [get?_settings, get?_settings, if_neg hother, if_neg hother]
  differ := by
    rw [get?_settings, get?_settings, if_pos hname, if_pos hname, if_pos rfl, if_pos rfl]
    exact fun heq => hne (Option.some.inj heq)

/-! ## The effect of parameters -/

/-- Whatever two sets of values for all parameters of a variant differ in one of them, the objects
differ, unless it is one of the five parameters of product images and images are curated. -/
theorem effective_iff (v : Variant) (productized : Bool) :
    ∃ b, v.bundle productized = .ok b ∧
      b.capabilities.productImageParameters.keys =
        ["AMP_APICAST_IMAGE", "AMP_BACKEND_IMAGE", "AMP_ROUTER_IMAGE", "AMP_SYSTEM_IMAGE",
          "AMP_ZYNC_IMAGE"] ∧
      ∀ (name : String) (supplied supplied' : SortedMap String String),
        b.DifferAt name supplied supplied' → ∀ d d' : Draws,
        ∃ r r', b.process supplied d = .ok r ∧ b.process supplied' d' = .ok r' ∧
          (r.objects ≠ r'.objects ↔
            ¬(productized = true ∧ name ∈ b.capabilities.productImageParameters.keys)) := by
  refine ⟨_, v.bundle_eq productized, ?_, fun name supplied supplied' hdiffer d d' => ?_⟩
  · rw [capabilities_transformed]
    exact imageNames_eq
  · obtain ⟨r, r', hprocess, hprocess', hobjects⟩ := hdiffer.objects_ne_iff d d'
    refine ⟨r, r', hprocess, hprocess', hobjects.trans ?_⟩
    rw [mentions_iff hdiffer.declared, capabilities_transformed]
    rfl

theorem wildcardDomain_effective :
    ∃ b r r', standard.bundle false = .ok b ∧
      b.DifferAt "WILDCARD_DOMAIN" (standard.settings "WILDCARD_DOMAIN" "a")
        (standard.settings "WILDCARD_DOMAIN" "b") ∧
      b.process (standard.settings "WILDCARD_DOMAIN" "a") id = .ok r ∧
      b.process (standard.settings "WILDCARD_DOMAIN" "b") id = .ok r' ∧
      r.objects ≠ r'.objects := by
  obtain ⟨b, hbundle, -, hall⟩ := effective_iff standard false
  obtain rfl := Except.ok.inj ((standard.bundle_eq false).symm.trans hbundle)
  have hdiffer : (standard.transformed false).DifferAt "WILDCARD_DOMAIN"
      (standard.settings "WILDCARD_DOMAIN" "a") (standard.settings "WILDCARD_DOMAIN" "b") :=
    differAt_settings (by decide) (by decide) (by decide)
  obtain ⟨r, r', hprocess, hprocess', hobjects⟩ := hall _ _ _ hdiffer id id
  exact ⟨_, r, r', hbundle, hdiffer, hprocess, hprocess', hobjects.2 nofun⟩

/-- Behind curated images the image of a product is declared but makes no difference. -/
theorem backendImage_ignored :
    ∃ b r r', standard.bundle true = .ok b ∧
      b.DifferAt "AMP_BACKEND_IMAGE" (standard.settings "AMP_BACKEND_IMAGE" "a")
        (standard.settings "AMP_BACKEND_IMAGE" "b") ∧
      b.process (standard.settings "AMP_BACKEND_IMAGE" "a") id = .ok r ∧
      b.process (standard.settings "AMP_BACKEND_IMAGE" "b") id = .ok r' ∧
      r.objects = r'.objects := by
  have himage : "AMP_BACKEND_IMAGE" ∈ imageNames := by decide
  have hdiffer : (standard.transformed true).DifferAt "AMP_BACKEND_IMAGE"
      (standard.settings "AMP_BACKEND_IMAGE" "a") (standard.settings "AMP_BACKEND_IMAGE" "b") :=
    differAt_settings (by decide) (by decide) (by decide)
  obtain ⟨r, r', hprocess, hprocess', hobjects⟩ := hdiffer.objects_ne_iff id id
  refine ⟨_, r, r', standard.bundle_eq true, hdiffer, hprocess, hprocess', ?_⟩
  by_contra hne
  exact not_mentions_images himage (hobjects.1 hne)

end Variant

end ApiPlatform
