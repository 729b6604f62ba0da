import ApiPlatform.Proofs.Template.Compatible
import ApiPlatform.Proofs.Transform.Steady
/-!
# The texts of the catalog

What the contributions bring is fixed: their names, their identities and their texts.  So it can be
checked once and for all that they do not get into each other's way, that their parameters have
harmless values of their own, and that each object refers to parameters that it does not outlast.
-/

namespace ApiPlatform

open Placeholder (Plain Fits isPlain plain_of_isPlain fits_of_fits)

theorem eq_ok_of_toBool {ε α : Type} {x : Except ε α} (h : x.toBool) (fallback : α) :
    x = .ok (x.toOption.getD fallback) := by
  cases x with
  | error e => cases h
  | ok a => rfl

/-! ## Checks -/

/-- The names as lists of characters, against which texts are checked. -/
def spelled (names : List String) : List (List Char) := names.filterMap Text.ascii?

theorem mem_of_mem_spelled {names : List String} {name : String}
    (h : name.toList ∈ spelled names) : name ∈ names := by
  obtain ⟨name', hmem, hascii⟩ := List.mem_filterMap.1 h
  rwa [String.toList_injective (Text.toList_of_ascii? hascii)] at hmem

theorem fits_of_fits_spelled {names : List String} {s : String}
    (h : Placeholder.fits (spelled names) s) : Fits (· ∈ names) s :=
  (fits_of_fits h).mono fun _ => mem_of_mem_spelled

namespace Resource

/-- Whether the texts of an object fit some names, and its keys and identity are plain. -/
def fits (names : List String) (r : Resource) : Bool :=
  r.toJson.keys.all isPlain && r.toJson.strings.all (Placeholder.fits (spelled names)) &&
    r.metadata.name.all isPlain && r.metadata.namespace.all isPlain

theorem fillable_of_fits {names : List String} {r : Resource} (h : r.fits names) :
    r.Fillable (· ∈ names) := by
  simp only [fits, Bool.and_eq_true, List.all_eq_true, Option.all_eq_true] at h
  obtain ⟨⟨⟨hkeys, hstrings⟩, hname⟩, hnamespace⟩ := h
  exact ⟨⟨fun k hk => plain_of_isPlain (hkeys k hk),
      fun s hs => fits_of_fits_spelled (hstrings s hs)⟩,
    fun name hmem => plain_of_isPlain (hname name hmem),
    fun ns hmem => plain_of_isPlain (hnamespace ns hmem)⟩

end Resource

namespace Parameter

/-- Whether the values that a parameter takes of its own have no opening braces. -/
def isHarmless (p : Parameter) : Bool :=
  p.value.all isPlain && (p.generate.isNone ||
    (p.expression?.bind Generator.Expression.ofText?).any fun e => !e.alphabet.contains '{')

theorem harmless_of_isHarmless {p : Parameter} (h : p.isHarmless) : p.Harmless := by
  simp only [isHarmless, Bool.and_eq_true, Bool.or_eq_true, Option.all_eq_true] at h
  obtain ⟨hvalue, hgenerate⟩ := h
  refine ⟨fun value hmem => plain_of_isPlain (hvalue value hmem), ?_⟩
  rcases hgenerate with hnone | hany
  · exact .inl (Option.isNone_iff_eq_none.1 hnone)
  · obtain ⟨e, he, halphabet⟩ := (Option.any_eq_true _ _).1 hany
    obtain ⟨text, htext, hread⟩ := Option.bind_eq_some_iff.1 he
    refine .inr ⟨text, e, expression?_eq_some.1 htext, hread, ?_⟩
    simpa using halphabet

end Parameter

instance (c : Capabilities) : DecidablePred c.Retains :=
  fun _ => inferInstanceAs (Decidable (_ ∧ _))

instance (c : Capabilities) (k : ObjectKey) : DecidablePred (c.Grants k) :=
  fun _ => inferInstanceAs (Decidable (_ ∧ _))

/-! ## The contributions -/

namespace Contributions

/-- What the contributions to every template declare. -/
def platform : Capabilities := Capabilities.mergeAll {} (base.map (·.capabilities))

/-- The names of the parameters of some contributions. -/
def names (cs : List Contribution) : List String := (cs.flatMap (·.parameters)).map (·.name)

/-- The names to which the object under an identity may refer. -/
def granted (cs : List Contribution) (k : ObjectKey) : List String :=
  (names cs).filter fun name => platform.Grants k name

/-- The parameters that state where product images come from. -/
def imageNames : List String := platform.productImageParameters.keys

/-- The names of all other parameters. -/
def otherNames (cs : List Contribution) : List String := (names cs).filter (· ∉ imageNames)

/-- The names of other parameters to which the object under an identity may refer. -/
def grantedOthers (cs : List Contribution) (k : ObjectKey) : List String :=
  (otherNames cs).filter fun name => platform.Grants k name

variable {cs cs' : List Contribution}

theorem names_subset (h : cs ⊆ cs') : names cs ⊆ names cs' := by
  refine List.map_subset _ fun p hp => ?_
  obtain ⟨c, hc, hp⟩ := List.mem_flatMap.1 hp
  exact List.mem_flatMap.2 ⟨c, h hc, hp⟩

theorem otherNames_subset (h : cs ⊆ cs') : otherNames cs ⊆ otherNames cs' :=
  List.filter_subset _ (names_subset h)

theorem grantedOthers_subset_otherNames (cs : List Contribution) (k : ObjectKey) :
    grantedOthers cs k ⊆ otherNames cs :=
  List.filter_subset_self _

theorem grantedOthers_subset_granted (cs : List Contribution) (k : ObjectKey) :
    grantedOthers cs k ⊆ granted cs k :=
  List.filter_subset _ (List.filter_subset_self _)

/-- The options of every contribution can be built, no two of all parameters share a name, and no
two of all objects an identity. -/
theorem compatible_all : Compatible all := by
  have hbuilt : ∀ c ∈ all, c.objects.toBool := by
    decide +kernel
  refine ⟨fun c hc => eq_ok_of_toBool (hbuilt c hc) [], ?_, ?_⟩
  · decide +kernel
  · decide +kernel

theorem harmless_all : ∀ p ∈ all.flatMap (·.parameters), p.Harmless := by
  have hall : ∀ p ∈ all.flatMap (·.parameters), p.isHarmless := by
    decide
  exact fun p hp => Parameter.harmless_of_isHarmless (hall p hp)

theorem fits_images : ∀ r ∈ images.made, r.fits (granted base r.key) := by
  decide

/-- Each other object of the platform refers to other parameters that it does not outlast. -/
theorem fits_others : ∀ c ∈ base, c ≠ images → ∀ r ∈ c.made, r.fits (grantedOthers base r.key) := by
  have hredis : ∀ r ∈ redis.made, r.fits (grantedOthers base r.key) := by
    decide +kernel
  have hbackend : ∀ r ∈ backend.made, r.fits (grantedOthers base r.key) := by
    decide +kernel
  have hmysql : ∀ r ∈ mysql.made, r.fits (grantedOthers base r.key) := by
    decide +kernel
  have hmemcached : ∀ r ∈ memcached.made, r.fits (grantedOthers base r.key) := by
    decide +kernel
  have hsystem : ∀ r ∈ system.made, r.fits (grantedOthers base r.key) := by
    decide +kernel
  have hzync : ∀ r ∈ zync.made, r.fits (grantedOthers base r.key) := by
    decide +kernel
  have hgateways : ∀ r ∈ gateways.made, r.fits (grantedOthers base r.key) := by
    decide +kernel
  have hrouter : ∀ r ∈ wildcardRouter.made, r.fits (grantedOthers base r.key) := by
    decide +kernel
  simp only [base, List.forall_mem_cons]
  exact ⟨fun _ => by decide, fun h => absurd rfl h, fun _ => hredis, fun _ => hbackend,
    fun _ => hmysql, fun _ => hmemcached, fun _ => hsystem, fun _ => hzync, fun _ => hgateways,
    fun _ => hrouter, List.forall_mem_nil _⟩

theorem fits_objectStorage :
    ∀ r ∈ objectStorage.made, r.fits (grantedOthers (base ++ [objectStorage]) r.key) := by
  decide

/-- Each object of the platform refers to parameters that it does not outlast. -/
theorem fillable_base : ∀ c ∈ base, ∀ r ∈ c.made, r.Fillable (· ∈ granted base r.key) := by
  intro c hc r hr
  by_cases himages : c = images
  · subst himages
    exact Resource.fillable_of_fits (fits_images r hr)
  · have hothers := Resource.fillable_of_fits (fits_others c hc himages r hr)
    exact hothers.mono fun _ hname => grantedOthers_subset_granted base r.key hname

theorem fillable_objectStorage : ∀ r ∈ objectStorage.made,
    r.Fillable (· ∈ granted (base ++ [objectStorage]) r.key) := by
  intro r hr
  have hothers := Resource.fillable_of_fits (fits_objectStorage r hr)
  exact hothers.mono fun _ hname => grantedOthers_subset_granted _ r.key hname

/-- The objects of other contributions than the images refer to other parameters. -/
theorem fillable_others {c : Contribution} (hc : c ∈ all) (himages : c ≠ images) {r : Resource}
    (hr : r ∈ c.made) : r.Fillable (· ∈ otherNames all) := by
  have hnames : ∀ {cs : List Contribution}, cs ⊆ all → r.fits (grantedOthers cs r.key) →
      r.Fillable (· ∈ otherNames all) := by
    intro cs hcs hfits
    refine (Resource.fillable_of_fits hfits).mono fun name hname => ?_
    exact otherNames_subset hcs (grantedOthers_subset_otherNames cs r.key hname)
  rcases List.mem_append.1 hc with hbase | hextra
  · exact hnames (List.subset_append_left _ _) (fits_others c hbase himages r hr)
  · simp only [List.mem_cons, List.not_mem_nil, or_false] at hextra
    rcases hextra with rfl | rfl
    · cases hr
    · exact hnames (by simp [all]) (fits_objectStorage r hr)

/-! ## The declarations -/

theorem tidy_platform : platform.Tidy := by
  have hfields : ∀ e ∈ platform.externalEndpoints.entries, ∀ f ∈ e.2, isPlain f.field := by
    decide
  have henvironment : ∀ s ∈ platform.sharedStorage, isPlain s.environmentConfigMap ∧
      .template .configMap s.environmentConfigMap ∉ platform.externalDatabaseObjects.keys := by
    decide
  refine ⟨by decide, fun e he f hf => plain_of_isPlain (hfields e he f hf), ?_⟩
  exact fun s hs => (henvironment s hs).imp_left plain_of_isPlain

theorem environment_platform : ∀ s ∈ platform.sharedStorage,
    ∃ r ∈ system.made, r.key = .template .configMap s.environmentConfigMap := by
  decide

end Contributions

end ApiPlatform
