import ApiPlatform.Proofs.Transform.FloatingTag
/-!
# What curated images make of a bundle

Two maps from names to products say where images go: into the defaults of the parameters that are
declared, and into the release tags of the streams that are.  `Effect` says what every parameter,
object and tag comes to, and with that the bundle is determined (`effect_iff`).  A bundle that went
through this once is left as it is (`Effect.again`).
-/

namespace ApiPlatform

open ApiPlatform.Bundle (Step runSteps runSteps_append runSteps_cons)

/-! ## Relations that are functions -/

section Functional

variable {κ α β : Type}

theorem forall₂_iff_eq_map {R : α → β → Prop} {f : α → β} {l : List α} {l' : List β}
    (hR : ∀ a b, R a b ↔ b = f a) : List.Forall₂ R l l' ↔ l' = l.map f := by
  have hfunction : R = fun a b => f a = b := by
    funext a b
    exact propext ((hR a b).trans eq_comm)
  rw [hfunction, ← List.forall₂_map_left_iff, List.forall₂_eq_eq_eq]
  exact eq_comm

theorem forall₂_entries_iff {R : κ → α → α → Prop} {f : κ → α → α} {es es' : List (κ × α)}
    (hR : ∀ k v v', R k v v' ↔ v' = f k v) :
    List.Forall₂ (fun e e' => e'.1 = e.1 ∧ R e.1 e.2 e'.2) es es' ↔
      es' = es.map fun e => (e.1, f e.1 e.2) := by
  refine forall₂_iff_eq_map fun e e' => ?_
  rw [hR, Prod.ext_iff]

theorem forall₂_again {R : α → α → Prop} (hR : ∀ a a', R a a' → R a' a') {l l' : List α}
    (h : List.Forall₂ R l l') : List.Forall₂ R l' l' := by
  induction h with
  | nil => exact .nil
  | cons h _ ih => exact .cons (hR _ _ h) ih

end Functional

namespace ProductizedOptions

/-- The option field that holds the curated image of a product. -/
def field : ProductImage → String
  | .gateway => "apicast_image"
  | .backend => "backend_image"
  | .system => "system_image"
  | .wildcardRouter => "router_image"
  | .zync => "zync_image"

theorem image_ofRecord (r : OptionRecord) (image : ProductImage) :
    (ofRecord r).image image = r.text (field image) := by
  cases image <;> rfl

end ProductizedOptions

namespace Productized

variable {o : ProductizedOptions} {c : Capabilities} {b b' : Bundle} {r r' : Resource}
variable {release image name : String} {images : ProductImage → String}
variable {p p' : Parameter} {t t' : ImageTag}

/-! ## The parts of a bundle -/

/-- What becomes of the parameter under a name: if it is declared as that of a product, its default
is the image. -/
inductive Defaulted (images : ProductImage → String) (c : Capabilities) (name : String) :
    Parameter → Parameter → Prop
  | declared {p : Parameter} {product : ProductImage}
      (hdeclared : c.productImageParameters.get? name = some product) :
      Defaulted images c name p { p with value := some (images product) }
  | other {p : Parameter} (hnone : c.productImageParameters.get? name = none) :
      Defaulted images c name p p

/-- What becomes of a tag in a stream of a product: that of the release imports the image. -/
inductive Retagged (release image : String) : ImageTag → ImageTag → Prop
  | release {t : ImageTag} (hname : t.name = release) :
      Retagged release image t
        { t with source := some { kind := some "DockerImage", name := some image } }
  | other {t : ImageTag} (hname : t.name ≠ release) : Retagged release image t t

/-- What becomes of an object. -/
inductive Curated (release : String) (images : ProductImage → String) (c : Capabilities) :
    Resource → Resource → Prop
  | product {s : ImageStream} {name : String} {product : ProductImage} {tags : List ImageTag}
      (hname : s.metadata.name = some name)
      (hdeclared : c.productImageStreams.get? name = some product)
      (htags : List.Forall₂ (Retagged release (images product)) s.tags tags) :
      Curated release images c (.imageStream s) (.imageStream { s with tags })
  | foreign {s : ImageStream}
      (hnone : ∀ name, s.metadata.name = some name → c.productImageStreams.get? name = none) :
      Curated release images c (.imageStream s) (.imageStream s)
  | other {r : Resource} (hkind : r.kind ≠ .imageStream) : Curated release images c r r

/-- Curated images change the declared parameters and streams of a bundle where they stand, and
nothing else in it. -/
structure Effect (release : String) (images : ProductImage → String) (b b' : Bundle) : Prop where
  parameters : List.Forall₂
    (fun e e' => e'.1 = e.1 ∧ Defaulted images b.capabilities e.1 e.2 e'.2)
    b.parameters.entries b'.parameters.entries
  objects : List.Forall₂
    (fun e e' => e'.1 = e.1 ∧ Curated release images b.capabilities e.2 e'.2)
    b.objects.entries b'.objects.entries
  capabilities : b'.capabilities = b.capabilities

/-! ## Streams -/

theorem retagged_iff {product : ProductImage} :
    Retagged o.release (o.image product) t t' ↔ t' = redirectTag o product t := by
  constructor
  · rintro (hname | hname)
    · exact (if_pos hname).symm
    · exact (redirectTag_of_name_ne product hname).symm
  · rintro rfl
    by_cases hname : t.name = o.release
    · rw [redirectTag, if_pos hname]
      exact .release hname
    · rw [redirectTag_of_name_ne product hname]
      exact .other hname

theorem forall₂_retagged_iff {product : ProductImage} {ts ts' : List ImageTag} :
    List.Forall₂ (Retagged o.release (o.image product)) ts ts' ↔
      ts' = ts.map (redirectTag o product) :=
  forall₂_iff_eq_map fun _ _ => retagged_iff

theorem redirectStream_of_get?_eq_some {s : ImageStream} {product : ProductImage}
    (hname : s.metadata.name = some name)
    (hdeclared : c.productImageStreams.get? name = some product) :
    redirectStream o c (.imageStream s) =
      .imageStream { s with tags := s.tags.map (redirectTag o product) } := by
  rw [redirectStream, hname, Option.bind_some, hdeclared]

theorem redirectStream_of_bind_eq_none {s : ImageStream}
    (hnone : s.metadata.name.bind c.productImageStreams.get? = none) :
    redirectStream o c (.imageStream s) = .imageStream s :=
  redirectStream_of_eq_none (r := .imageStream s) hnone

theorem curated_iff : Curated o.release o.image c r r' ↔ r' = redirectStream o c r := by
  constructor
  · intro h
    cases h with
    | product hname hdeclared htags =>
        obtain rfl := forall₂_retagged_iff.1 htags
        exact (redirectStream_of_get?_eq_some hname hdeclared).symm
    | foreign hnone => exact (redirectStream_of_bind_eq_none (Option.bind_eq_none_iff.2 hnone)).symm
    | other hkind => exact (redirectStream_of_kind_ne hkind).symm
  · rintro rfl
    by_cases hkind : r.kind = .imageStream
    · obtain ⟨s, hs⟩ := Resource.exists_ofKind_eq hkind
      obtain rfl := Option.some.inj hs
      cases hproduct : s.metadata.name.bind c.productImageStreams.get? with
      | some product =>
          obtain ⟨name, hname, hdeclared⟩ := Option.bind_eq_some_iff.1 hproduct
          rw [redirectStream_of_get?_eq_some hname hdeclared]
          exact .product hname hdeclared (forall₂_retagged_iff.2 rfl)
      | none =>
          rw [redirectStream_of_bind_eq_none hproduct]
          exact .foreign (Option.bind_eq_none_iff.1 hproduct)
    · rw [redirectStream_of_kind_ne hkind]
      exact .other hkind

/-! ## Defaults -/

/-- The parameter under a name with the image of its product, if it has one, for default. -/
def redirectDefault (o : ProductizedOptions) (c : Capabilities) (name : String) (p : Parameter) :
    Parameter :=
  { p with value := ((c.productImageParameters.get? name).map o.image).or p.value }

theorem defaulted_iff : Defaulted o.image c name p p' ↔ p' = redirectDefault o c name p := by
  unfold redirectDefault
  constructor
  · rintro (hdeclared | hnone)
    · rw [hdeclared]
      rfl
    · rw [hnone]
      rfl
  · rintro rfl
    cases hproduct : c.productImageParameters.get? name with
    | some product => exact .declared hproduct
    | none => exact .other hproduct

/-- No name is declared twice, so each default is set at most once. -/
theorem parameters_setDefaults {es : List (String × ProductImage)}
    (hes : es.Pairwise (fun e e' => compare e.1 e'.1 = .lt)) (b : Bundle) :
    (runSteps (es.map fun e => .setDefault e.1 (some (o.image e.2))) b).parameters.entries =
      b.parameters.entries.map fun e =>
        (e.1, { e.2 with value := ((SortedMap.lookupIn e.1 es).map o.image).or e.2.value }) := by
  induction es generalizing b with
  | nil => exact (List.map_id _).symm
  | cons declared es ih =>
      obtain ⟨hfirst, hrest⟩ := List.pairwise_cons.1 hes
      have hset : (Step.setDefault declared.1 (some (o.image declared.2))).run b =
          b.setDefault declared.1 (some (o.image declared.2)) := rfl
      rw [List.map_cons, runSteps_cons, ih hrest, hset, Bundle.setDefault,
        OrderedMap.modify_eq_mapEntries, OrderedMap.mapEntries, List.map_map]
      refine List.map_congr_left fun e _ => Prod.ext rfl ?_
      simp only [SortedMap.lookupIn, Std.LawfulEqCmp.compare_eq_iff_eq, Function.comp_apply]
      by_cases hname : e.1 = declared.1
      · have hnone : SortedMap.lookupIn e.1 es = none :=
          SortedMap.lookupIn_eq_none_of_lt fun other hother => hname ▸ hfirst other hother
        rw [hnone, if_pos hname, if_pos hname]
        rfl
      · rw [if_neg hname, if_neg hname]

theorem parameters_steps (o : ProductizedOptions) (b : Bundle) :
    (runSteps (steps o b.capabilities) b).parameters.entries =
      b.parameters.entries.map fun e => (e.1, redirectDefault o b.capabilities e.1 e.2) := by
  rw [steps, runSteps_append]
  exact parameters_setDefaults b.capabilities.productImageParameters.sorted b

/-! ## The whole bundle -/

/-- The effect determines what becomes of a bundle. -/
theorem effect_iff :
    Effect o.release o.image b b' ↔ b' = runSteps (steps o b.capabilities) b := by
  have hparameters : List.Forall₂
      (fun e e' => e'.1 = e.1 ∧ Defaulted o.image b.capabilities e.1 e.2 e'.2)
      b.parameters.entries b'.parameters.entries ↔
        b'.parameters.entries = (runSteps (steps o b.capabilities) b).parameters.entries := by
    rw [parameters_steps]
    exact forall₂_entries_iff fun name p p' => defaulted_iff
  have hobjects : List.Forall₂
      (fun e e' => e'.1 = e.1 ∧ Curated o.release o.image b.capabilities e.2 e'.2)
      b.objects.entries b'.objects.entries ↔
        b'.objects.entries = (runSteps (steps o b.capabilities) b).objects.entries := by
    rw [entries_runSteps]
    exact forall₂_entries_iff (f := fun _ => redirectStream o b.capabilities)
      fun key r r' => curated_iff
  constructor
  · intro h
    exact Bundle.ext_entries (hparameters.1 h.parameters) (hobjects.1 h.objects)
      (h.capabilities.trans (Bundle.capabilities_runSteps _ b).symm)
  · rintro rfl
    exact ⟨hparameters.2 rfl, hobjects.2 rfl, Bundle.capabilities_runSteps _ b⟩

/-- Curating images always succeeds and does to a bundle what its effect says, with the release and
the images of the options. -/
theorem run_curates (record : OptionRecord) (b : Bundle) :
    ∃ b', (transform (.ofRecord record)).run b = .ok b' ∧
      ∀ b'', Effect (record.text "amp_release")
        (fun product => record.text (ProductizedOptions.field product)) b b'' ↔ b'' = b' := by
  refine ⟨_, run_eq (.ofRecord record) b, fun b'' => ?_⟩
  have himages : (fun product => record.text (ProductizedOptions.field product)) =
      (ProductizedOptions.ofRecord record).image :=
    funext fun product => (ProductizedOptions.image_ofRecord record product).symm
  rw [himages]
  exact effect_iff (o := .ofRecord record)

/-! ## A second time -/

theorem Defaulted.again (h : Defaulted images c name p p') : Defaulted images c name p' p' := by
  cases h with
  | declared hdeclared => exact .declared hdeclared
  | other hnone => exact .other hnone

theorem Retagged.again (h : Retagged release image t t') : Retagged release image t' t' := by
  cases h with
  | release hname => exact .release hname
  | other hname => exact .other hname

theorem Curated.again (h : Curated release images c r r') : Curated release images c r' r' := by
  cases h with
  | product hname hdeclared htags =>
      exact .product hname hdeclared (forall₂_again (fun _ _ ht => ht.again) htags)
  | foreign hnone => exact .foreign hnone
  | other hkind => exact .other hkind

theorem Effect.again (h : Effect release images b b') : Effect release images b' b' where
  parameters := by
    rw [h.capabilities]
    refine forall₂_again (fun e e' he => ?_) h.parameters
    obtain ⟨hname, hdefaulted⟩ := he
    exact ⟨rfl, hname ▸ hdefaulted.again⟩
  objects := by
    rw [h.capabilities]
    exact forall₂_again (fun e e' he => ⟨rfl, he.2.again⟩) h.objects
  capabilities := rfl

end Productized

end ApiPlatform
