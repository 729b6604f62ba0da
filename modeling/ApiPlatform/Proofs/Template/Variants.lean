import ApiPlatform.Proofs.Catalog.Texts
import ApiPlatform.Template.Variant
/-!
# Every variant can be filled

The contributions of each variant can be assembled, its transforms run to their end, and what they
leave can be filled.  So whatever values without references are supplied, processing the bundle of a
variant leaves no reference behind.
-/

namespace ApiPlatform

open Catalog (HighAvailabilityOptions ObjectStorageOptions)
open Placeholder (HasReference Plain isPlain plain_of_isPlain)

namespace Capabilities

theorem merge_empty (c : Capabilities) : c.merge {} = c := by
  cases c
  simp [merge, SortedMap.union, SortedMap.insertMany, SortedMap.empty]

end Capabilities

namespace Variant

variable {v : Variant} {b : Bundle}

theorem contributions_eq (v : Variant) :
    v.contributions = Contributions.base ∨
      ∃ c ∈ [Contributions.highAvailability, Contributions.objectStorage],
        v.contributions = Contributions.base ++ [c] := by
  cases v with
  | standard | evaluation => exact .inl rfl
  | highAvailability => exact .inr ⟨_, List.mem_cons_self, rfl⟩
  | objectStorage => exact .inr ⟨_, List.mem_cons_of_mem _ List.mem_cons_self, rfl⟩

theorem base_subset (v : Variant) : Contributions.base ⊆ v.contributions := by
  rcases v.contributions_eq with heq | ⟨c, -, heq⟩ <;> rw [heq]
  exacts [List.Subset.refl _, List.subset_append_left _ _]

theorem contributions_sublist (v : Variant) : v.contributions.Sublist Contributions.all := by
  rcases v.contributions_eq with heq | ⟨c, hc, heq⟩ <;> rw [heq]
  · exact List.sublist_append_left _ _
  · exact (List.Sublist.refl _).append (List.singleton_sublist.2 hc)

/-- Only the contributions to every template declare anything. -/
theorem mergeAll_contributions (v : Variant) :
    Capabilities.mergeAll {} (v.contributions.map (·.capabilities)) = Contributions.platform := by
  rcases v.contributions_eq with heq | ⟨c, hc, heq⟩ <;> rw [heq]
  · rfl
  · have hnone : c.capabilities = {} := by
      simp only [List.mem_cons, List.not_mem_nil, or_false] at hc
      rcases hc with rfl | rfl <;> rfl
    rw [List.map_append, Capabilities.mergeAll, List.foldl_append, List.map_singleton, hnone]
    exact Capabilities.merge_empty _

/-! ## Assembled bundles -/

/-- The names of a variant's parameters. -/
def names (v : Variant) : List String := Contributions.names v.contributions

/-- The names of the parameters that stay, whatever leaves. -/
def steadyNames (v : Variant) : List String := v.names.filter Contributions.platform.Retains

theorem fillable_of_granted {cs : List Contribution} {r : Resource}
    (hnames : Contributions.names cs ⊆ v.names)
    (h : r.Fillable (· ∈ Contributions.granted cs r.key)) :
    r.Fillable fun name => name ∈ v.names ∧ Contributions.platform.Grants r.key name := by
  refine h.mono fun name hmem => ?_
  obtain ⟨hname, hgrants⟩ := List.mem_filter.1 hmem
  exact ⟨hnames hname, of_decide_eq_true hgrants⟩

theorem fillable_of_mem_made {r : Resource} (hr : r ∈ v.contributions.flatMap (·.made)) :
    r.Fillable fun name => name ∈ v.names ∧ Contributions.platform.Grants r.key name := by
  obtain ⟨c, hc, hr⟩ := List.mem_flatMap.1 hr
  have hbase : c ∈ Contributions.base → _ := fun hc =>
    fillable_of_granted (Contributions.names_subset v.base_subset)
      (Contributions.fillable_base c hc r hr)
  rcases v.contributions_eq with heq | ⟨extra, hextra, heq⟩
  · exact hbase (heq ▸ hc)
  · rw [heq] at hc
    rcases List.mem_append.1 hc with hc | hc
    · exact hbase hc
    · obtain rfl := List.mem_singleton.1 hc
      simp only [List.mem_cons, List.not_mem_nil, or_false] at hextra
      rcases hextra with rfl | rfl
      · cases hr
      · have hnames : Contributions.names (Contributions.base ++ [Contributions.objectStorage]) ⊆
            v.names := by
          rw [names, heq]
          exact List.Subset.refl _
        exact fillable_of_granted hnames (Contributions.fillable_objectStorage r hr)

theorem kindAt_of_mem {rs : List Resource} {c : Capabilities} {r : Resource} (hb : b.Holds rs c)
    (hr : r ∈ rs) : b.kindAt r.key = some r.kind := by
  have hmem : (r.key, r) ∈ b.objects.entries := hb.entries ▸ List.mem_map_of_mem hr
  obtain ⟨u, hget, hu⟩ := OrderedMap.exists_get?_of_mem hmem
  have hkey : u.key = r.key := by
    rw [hb.entries] at hu
    obtain ⟨r', -, heq⟩ := List.mem_map.1 hu
    obtain ⟨hkey, rfl⟩ := Prod.mk.inj heq
    exact hkey
  rw [Bundle.kindAt, Bundle.object?, hget]
  exact congrArg (some ·.kind) hkey

theorem accounted_of_collects
    (hb : b.Collects (v.contributions.flatMap (·.parameters)) (v.contributions.flatMap (·.made))
      Contributions.platform) : b.Accounted (· ∈ v.steadyNames) := by
  have hdeclares : ∀ name, b.Declares name ↔ name ∈ v.names := by
    intro name
    rw [Bundle.Declares, hb.keys_parameters]
    rfl
  constructor
  case keyed =>
    intro e he
    rw [hb.entries] at he
    obtain ⟨r, -, rfl⟩ := List.mem_map.1 he
    rfl
  case distinct =>
    rw [hb.keys]
    exact hb.fresh
  case objects =>
    intro e he
    rw [hb.entries] at he
    obtain ⟨r, hr, rfl⟩ := List.mem_map.1 he
    simp only [hdeclares, hb.capabilities]
    exact fillable_of_mem_made hr
  case named =>
    intro e he
    rw [hb.parameters] at he
    obtain ⟨p, -, rfl⟩ := List.mem_map.1 he
    rfl
  case parameters =>
    intro e he
    rw [hb.parameters] at he
    obtain ⟨p, hp, rfl⟩ := List.mem_map.1 he
    have hall := (v.contributions_sublist.flatMap (·.parameters)).subset hp
    exact Contributions.harmless_all p hall
  case steady =>
    intro name hname
    obtain ⟨hmem, hretains⟩ := List.mem_filter.1 hname
    rw [hdeclares, hb.capabilities]
    exact ⟨hmem, of_decide_eq_true hretains⟩
  case tidy =>
    rw [hb.capabilities]
    exact Contributions.tidy_platform
  case environment =>
    intro s hs
    rw [hb.capabilities] at hs
    obtain ⟨r, hr, hkey⟩ := Contributions.environment_platform s hs
    have hsystem : Contributions.system ∈ v.contributions :=
      v.base_subset (by simp [Contributions.base])
    rw [← hkey, kindAt_of_mem hb.toHolds (List.mem_flatMap.2 ⟨_, hsystem, hr⟩)]
    exact congrArg (some ·.kind) hkey

theorem exists_accounted (v : Variant) :
    ∃ b, v.assembled = .ok b ∧ b.parameters.values = v.contributions.flatMap (·.parameters) ∧
      b.Accounted (· ∈ v.steadyNames) := by
  obtain ⟨b, hassemble, hb⟩ :=
    Bundle.exists_assemble (Contributions.compatible_all.sublist v.contributions_sublist)
  rw [v.mergeAll_contributions] at hb
  refine ⟨b, ?_, hb.values_parameters, accounted_of_collects hb⟩
  rw [assembled, hassemble]
  rfl

/-! ## Transforms -/

/-- The curated images of productized templates. -/
def curatedImages : ProductizedOptions :=
  .ofRecord ((ProductizedOptions.schema.build productizedCalls).toOption.getD [])

theorem curation_true : curation true = .ok [Productized.transform curatedImages] := by
  have hbuild : (ProductizedOptions.schema.build productizedCalls).toBool := by
    decide
  rw [curation, if_pos rfl, eq_ok_of_toBool hbuild []]
  rfl

theorem plain_curatedImages (image : ProductImage) : Plain (curatedImages.image image) := by
  have hplain : ∀ image ∈ ProductImage.all, isPlain (curatedImages.image image) := by
    decide
  exact plain_of_isPlain (hplain image (by cases image <;> decide))

theorem exists_curation (v : Variant) (productized : Bool) :
    ∃ ts, curation productized = .ok ts ∧ ∀ t ∈ ts, Adjustment (· ∈ v.steadyNames) t := by
  cases productized with
  | false => exact ⟨[], rfl, List.forall_mem_nil _⟩
  | true =>
      exact ⟨_, curation_true, List.forall_mem_singleton.2 (.productized plain_curatedImages)⟩

/-- The addresses of external databases. -/
def externalDatabases : HighAvailabilityOptions :=
  .ofRecord ((HighAvailabilityOptions.schema.build
    Contributions.highAvailabilityCalls).toOption.getD [])

theorem adaptation_highAvailability :
    highAvailability.adaptation = .ok [HighAvailability.transform externalDatabases] := by
  have hbuild : (HighAvailabilityOptions.schema.build
      Contributions.highAvailabilityCalls).toBool := by
    decide
  rw [adaptation, eq_ok_of_toBool hbuild []]
  rfl

theorem steady_externalDatabases :
    externalDatabases.Steady (· ∈ highAvailability.steadyNames) := by
  have hurl : ∀ endpoint ∈ ExternalEndpoint.all,
      Placeholder.fits (spelled highAvailability.steadyNames) (externalDatabases.url endpoint) := by
    decide
  refine ⟨fits_of_fits_spelled (by decide), fun endpoint => ?_⟩
  exact fits_of_fits_spelled (hurl endpoint (by cases endpoint <;> decide))

/-- The credentials and the place of object storage. -/
def externalStorage : ObjectStorageOptions :=
  .ofRecord ((ObjectStorageOptions.schema.build
    Contributions.objectStorageCalls).toOption.getD [])

theorem adaptation_objectStorage :
    objectStorage.adaptation = .ok [ExternalStorage.transform externalStorage] := by
  have hbuild : (ObjectStorageOptions.schema.build Contributions.objectStorageCalls).toBool := by
    decide
  rw [adaptation, eq_ok_of_toBool hbuild []]
  rfl

theorem steady_externalStorage : externalStorage.Steady (· ∈ objectStorage.steadyNames) := by
  constructor <;> exact fits_of_fits_spelled (by decide)

theorem exists_adaptation (v : Variant) :
    ∃ ts, v.adaptation = .ok ts ∧ ∀ t ∈ ts, Adjustment (· ∈ v.steadyNames) t := by
  cases v with
  | standard => exact ⟨[], rfl, List.forall_mem_nil _⟩
  | evaluation => exact ⟨_, rfl, List.forall_mem_singleton.2 .evaluation⟩
  | highAvailability =>
      exact ⟨_, adaptation_highAvailability,
        List.forall_mem_singleton.2 (.highAvailability steady_externalDatabases)⟩
  | objectStorage =>
      exact ⟨_, adaptation_objectStorage,
        List.forall_mem_singleton.2 (.externalStorage steady_externalStorage)⟩

theorem exists_adjustments (v : Variant) (productized : Bool) :
    ∃ ts, v.transforms productized = .ok (.ofList ts) ∧
      ∀ t ∈ ts, Adjustment (· ∈ v.steadyNames) t := by
  obtain ⟨first, hcuration, hfirst⟩ := v.exists_curation productized
  obtain ⟨second, hadaptation, hsecond⟩ := v.exists_adaptation
  refine ⟨first ++ second, ?_, List.forall_mem_append.2 ⟨hfirst, hsecond⟩⟩
  rw [transforms, hcuration, hadaptation]
  rfl

theorem exists_fillable (v : Variant) (productized : Bool) :
    ∃ b, v.bundle productized = .ok b ∧ b.Fillable := by
  obtain ⟨b, hassembled, -, hb⟩ := v.exists_accounted
  obtain ⟨ts, htransforms, hts⟩ := v.exists_adjustments productized
  obtain ⟨b', happly, hb'⟩ := TransformChain.accounted_apply hts hb
  refine ⟨b', ?_, hb'.fillable⟩
  rw [bundle, hassembled, htransforms]
  change ((TransformChain.ofList ts).apply b).mapError _ = _
  rw [happly]
  rfl

/-- Whatever values without references are supplied, if those that have to be are among them, then
the bundle of a variant can be processed with any draws.  No reference is left, and the objects
keep their distinct identities and their order. -/
theorem bundle_completes (v : Variant) (productized : Bool) :
    ∃ b, v.bundle productized = .ok b ∧ ∀ (supplied : SortedMap String String) (d : Draws),
      b.Sufficient supplied →
      (∀ name value, supplied.get? name = some value → ¬HasReference value) →
      ∃ r, b.process supplied d = .ok r ∧ b.Completes r := by
  obtain ⟨b, hbundle, hb⟩ := v.exists_fillable productized
  refine ⟨b, hbundle, fun supplied d hsufficient hfree => ?_⟩
  obtain ⟨r, hprocess⟩ := hb.exists_process hsufficient d
  exact ⟨r, hprocess, hb.completes hfree hprocess⟩

/-- A domain that is no reference, though it looks like the beginning of one. -/
def domain : SortedMap String String := .ofList [("WILDCARD_DOMAIN", "$\x7b")]

theorem not_hasReference_domain (name value : String) (h : domain.get? name = some value) :
    ¬HasReference value := by
  obtain ⟨-, rfl⟩ := Prod.mk.inj (List.mem_singleton.1 (SortedMap.mem_of_get?_ofList h))
  rintro ⟨before, inner, after, -, heq⟩
  have hlength := congrArg List.length heq
  have hshort : "$\x7b".toList.length = 2 := by decide
  rw [hshort] at hlength
  simp only [Placeholder.reference, List.length_append, List.length_cons] at hlength
  omega

theorem standard_bundle_completes :
    ∃ b r, standard.bundle false = .ok b ∧ b.Sufficient domain ∧ b.process domain id = .ok r ∧
      b.Completes r := by
  obtain ⟨b, hbundle, hall⟩ := bundle_completes standard false
  have hsufficient : b.Sufficient domain := by
    obtain ⟨b₀, hassembled, hparameters, -⟩ := standard.exists_accounted
    have hsame : standard.bundle false = .ok b₀ := by
      rw [bundle, hassembled]
      rfl
    obtain rfl := Except.ok.inj (hbundle.symm.trans hsame)
    unfold Bundle.Sufficient
    rw [hparameters]
    decide
  obtain ⟨r, hprocess, hcompletes⟩ := hall domain id hsufficient not_hasReference_domain
  exact ⟨b, r, hbundle, hsufficient, hprocess, hcompletes⟩

end Variant

end ApiPlatform
