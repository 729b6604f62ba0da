import ApiPlatform.Catalog.Images
import ApiPlatform.Proofs.Transform.Entries
/-!
# The floating tag

Redirecting product images is meant for the tag of the release alone: the floating tag follows it
and reaches the image that way.  A release that is named like the floating tag is the exception.
There the floating tag itself is redirected, or it follows itself and reaches no image at all.
-/

namespace ApiPlatform

open ApiPlatform.Bundle (Step revise revise_append runSteps)
open Catalog (ImagesOptions)

namespace ImageStream

variable {s : ImageStream} {release image : String} {floating released last last' : ImageTag}

/-- The first tag of a name. -/
def tag? (s : ImageStream) (name : String) : Option ImageTag := s.tags.find? (·.name = name)

/-- Following the tags of a stream from a name ends at a tag that imports an outside image. -/
inductive Leads (s : ImageStream) : String → ImageTag → Prop
  | imports {name image : String} {t : ImageTag} (ht : s.tag? name = some t)
      (hsource : t.source = some (ImageTag.dockerImage image)) : Leads s name t
  | follows {name target : String} {t last : ImageTag} (ht : s.tag? name = some t)
      (hsource : t.source = (ImageTag.follow name target).source) (hrest : Leads s target last) :
      Leads s name last

/-- The floating tag leads to the tag of a release, which imports an outside image. -/
def FloatsTo (s : ImageStream) (release : String) : Prop :=
  ∃ t image, s.tag? release = some t ∧ t.source = some (ImageTag.dockerImage image) ∧
    ∀ last, s.Leads ImageTag.latest last ↔ last = t

theorem source_follow_ne (name target image : String) :
    (ImageTag.follow name target).source ≠ some (ImageTag.dockerImage image) := by
  simp [ImageTag.follow, ImageTag.dockerImage]

theorem floatsTo_of_tags (hfloating : s.tag? ImageTag.latest = some floating)
    (hfollows : floating.source = (ImageTag.follow ImageTag.latest release).source)
    (hreleased : s.tag? release = some released)
    (himports : released.source = some (ImageTag.dockerImage image)) : s.FloatsTo release := by
  -- The release tag ends every path that enters it.
  have hend : ∀ last, s.Leads release last → last = released := by
    intro last hlast
    cases hlast with
    | imports ht => exact Option.some.inj (ht.symm.trans hreleased)
    | follows ht hsource =>
        obtain rfl := Option.some.inj (ht.symm.trans hreleased)
        exact absurd (hsource.symm.trans himports) (source_follow_ne _ _ _)
  refine ⟨released, image, hreleased, himports, fun last => ⟨fun hlast => ?_, ?_⟩⟩
  · cases hlast with
    | imports ht hsource =>
        obtain rfl := Option.some.inj (ht.symm.trans hfloating)
        exact absurd (hfollows.symm.trans hsource) (source_follow_ne _ _ _)
    | follows ht hsource hrest =>
        obtain rfl := Option.some.inj (ht.symm.trans hfloating)
        have htarget := congrArg ObjectReference.name
          (Option.some.inj (hsource.symm.trans hfollows))
        exact hend last (Option.some.inj htarget ▸ hrest)
  · rintro rfl
    exact .follows hfloating hfollows (.imports hreleased himports)

end ImageStream

namespace Productized

variable {o : ProductizedOptions} {c : Capabilities} {b b' : Bundle}

/-! ## One stream -/

/-- The tags `ts'` are those of `ts` by name, and the floating ones are as they were. -/
def KeepsFloating (ts ts' : List ImageTag) : Prop :=
  List.Forall₂ (fun t t' => t'.name = t.name ∧ (t.name = ImageTag.latest → t' = t)) ts ts'

/-- The object `r'` is `r`, or both are streams whose tags may differ in what they follow, except
for the floating ones. -/
inductive Redirected : Resource → Resource → Prop
  | stream {s : ImageStream} {tags : List ImageTag} (htags : KeepsFloating s.tags tags) :
      Redirected (.imageStream s) (.imageStream { s with tags })
  | other {r : Resource} (hr : r.kind ≠ .imageStream) : Redirected r r

theorem redirectTag_of_name_ne (image : ProductImage) {t : ImageTag} (ht : t.name ≠ o.release) :
    redirectTag o image t = t :=
  if_neg ht

theorem name_redirectTag (o : ProductizedOptions) (image : ProductImage) (t : ImageTag) :
    (redirectTag o image t).name = t.name := by
  unfold redirectTag
  split <;> rfl

/-- The tags of a stream after redirection: all redirected, or all as they were. -/
theorem redirectStream_eq (o : ProductizedOptions) (c : Capabilities) (s : ImageStream) :
    (∃ image, redirectStream o c (.imageStream s) =
        .imageStream { s with tags := s.tags.map (redirectTag o image) }) ∨
      redirectStream o c (.imageStream s) = .imageStream s := by
  unfold redirectStream
  dsimp only
  split
  · next image _ => exact .inl ⟨image, rfl⟩
  · exact .inr rfl

theorem redirectStream_of_kind_ne {r : Resource} (hr : r.kind ≠ .imageStream) :
    redirectStream o c r = r :=
  (confined_redirectStream o c).fixed r.key r (decide_eq_false hr)

theorem redirected_redirectStream (hrelease : o.release ≠ ImageTag.latest) (c : Capabilities)
    (r : Resource) : Redirected r (redirectStream o c r) := by
  by_cases hr : r.kind = .imageStream
  · obtain ⟨s, hs⟩ := Resource.exists_ofKind_eq hr
    obtain rfl := Option.some.inj hs
    rcases redirectStream_eq o c s with ⟨image, heq⟩ | heq
    · rw [heq]
      refine .stream (List.forall₂_map_right_iff.2 (List.forall₂_same.2 fun t _ => ?_))
      refine ⟨name_redirectTag o image t, fun ht => redirectTag_of_name_ne image ?_⟩
      exact ht ▸ hrelease.symm
    · rw [heq]
      exact .stream (List.forall₂_same.2 fun t _ => ⟨rfl, fun _ => rfl⟩)
  · rw [redirectStream_of_kind_ne hr]
    exact .other hr

/-! ## The streams of the platform -/

/-- The tags of a stream are a floating one and that of the release which it follows. -/
def Paired (release : String) (s : ImageStream) : Prop :=
  ∃ floating released image, s.tags = [floating, released] ∧
    floating.name = ImageTag.latest ∧
    floating.source = (ImageTag.follow ImageTag.latest release).source ∧
    released.name = release ∧ released.source = some (ImageTag.dockerImage image)

theorem paired_of_mem {i : ImagesOptions} {s : ImageStream}
    (hs : .imageStream s ∈ Catalog.Images.objects i) : Paired i.release s := by
  have hstream : ∀ name title image : String,
      .imageStream s = Catalog.imageStream i name title image → Paired i.release s := by
    intro name title image heq
    obtain rfl := Resource.imageStream.inj heq
    exact ⟨_, _, image, rfl, rfl, rfl, rfl, rfl⟩
  simp only [Catalog.Images.objects, List.mem_cons, List.not_mem_nil, reduceCtorEq, or_false] at hs
  rcases hs with h | h | h | h | h | h | h | h | h | h <;> exact hstream _ _ _ h

/-- A floating tag that is named like the release follows itself and leads nowhere. -/
theorem Paired.floatsTo_iff {release : String} {s : ImageStream} (h : Paired release s) :
    s.FloatsTo release ↔ release ≠ ImageTag.latest := by
  obtain ⟨floating, released, image, htags, hfloating, hfollows, hreleased, himports⟩ := h
  have hfirst : s.tag? ImageTag.latest = some floating := by
    simp [ImageStream.tag?, htags, hfloating]
  constructor
  · rintro ⟨t, image, ht, hsource, -⟩ rfl
    obtain rfl := Option.some.inj (hfirst.symm.trans ht)
    exact ImageStream.source_follow_ne _ _ _ (hfollows.symm.trans hsource)
  · intro hrelease
    have hne : floating.name ≠ release := hfloating ▸ hrelease.symm
    refine ImageStream.floatsTo_of_tags hfirst hfollows ?_ himports
    simp [ImageStream.tag?, htags, hne, hreleased]

/-- Whichever release the images are redirected for, the pair stays one. -/
theorem Paired.map_redirectTag {release : String} {s : ImageStream} (h : Paired release s)
    (ho : o.release ≠ ImageTag.latest) (image : ProductImage) :
    Paired release { s with tags := s.tags.map (redirectTag o image) } := by
  obtain ⟨floating, released, source, htags, hfloating, hfollows, hreleased, himports⟩ := h
  have hkept : redirectTag o image floating = floating :=
    redirectTag_of_name_ne image (hfloating ▸ ho.symm)
  have himage : ∃ source, (redirectTag o image released).source =
      some (ImageTag.dockerImage source) := by
    unfold redirectTag
    split
    · exact ⟨o.image image, rfl⟩
    · exact ⟨source, himports⟩
  obtain ⟨source', hsource'⟩ := himage
  refine ⟨floating, redirectTag o image released, source', ?_, hfloating, hfollows, ?_, hsource'⟩
  · rw [htags, List.map_cons, List.map_cons, List.map_nil, hkept]
  · rw [name_redirectTag, hreleased]

/-! ## Two releases of one stream -/

/-- Options that are set in full, with the name of the floating tag for the release. -/
def latestCalls : OptionCalls :=
  [("amp_release", .text ImageTag.latest), ("apicast_image", .text "registry.example.com/apicast"),
    ("backend_image", .text "registry.example.com/backend"),
    ("router_image", .text "registry.example.com/router"),
    ("system_image", .text "registry.example.com/system"),
    ("zync_image", .text "registry.example.com/zync")]

def latestOptions : ProductizedOptions :=
  .ofRecord ((ProductizedOptions.schema.build latestCalls).toOption.getD [])

/-- A stream whose floating tag follows the tag of an ordinary release. -/
def backendStream : ImageStream :=
  { metadata := { name := some "amp-backend" }
    tags :=
      [.follow ImageTag.latest "2.5",
        .importing "2.5" "quay.io/3scale/apisonator:2.5" false] }

def backendBundle : Bundle :=
  { objects := OrderedMap.empty.insert (.template .imageStream "amp-backend")
      (.imageStream backendStream)
    capabilities := Catalog.Images.capabilities }

/-- The same images for an ordinary release. -/
def releaseOptions : ProductizedOptions := { latestOptions with release := "2.5" }

/-- The streams of an ordinary release. -/
def releaseImages : ImagesOptions :=
  { appLabel := "3scale-api-management"
    release := "2.5"
    gatewayImage := "quay.io/3scale/apicast:2.5"
    backendImage := "quay.io/3scale/apisonator:2.5"
    routerImage := "quay.io/3scale/wildcard-router:2.5"
    systemImage := "quay.io/3scale/porta:2.5"
    zyncImage := "quay.io/3scale/zync:2.5"
    postgresqlImage := "centos/postgresql-10-centos7"
    backendRedisImage := "centos/redis-32-centos7"
    systemRedisImage := "centos/redis-32-centos7"
    systemMemcachedImage := "memcached:1.5"
    systemMysqlImage := "centos/mysql-57-centos7"
    insecureImport := false }

/-! ## The bundle as a whole -/

theorem entries_runSteps (o : ProductizedOptions) (b : Bundle) :
    (runSteps (steps o b.capabilities) b).objects.entries =
      b.objects.entries.map fun e => (e.1, redirectStream o b.capabilities e.2) := by
  have hrevise : ∀ key r, revise key (steps o b.capabilities) r =
      redirectStream o b.capabilities r := by
    intro key r
    have hdefaults : revise key (b.capabilities.productImageParameters.entries.map fun e =>
        .setDefault e.1 (some (o.image e.2))) r = r := by
      refine Bundle.revise_eq_self fun s hs => ?_
      obtain ⟨e, -, rfl⟩ := List.mem_map.1 hs
      rfl
    rw [steps, revise_append, hdefaults]
    rfl
  rw [Bundle.entries_runSteps joiningKeys_step, leavingKeys_steps]
  simp [hrevise]

/-- Unless the release is named like it, the floating tag of every stream stays as it was.  So the
floating tags of the platform lead to the image of their release as before. -/
theorem run_keeps_floating (hrelease : o.release ≠ ImageTag.latest) :
    (∀ b, ∃ b', (transform o).run b = .ok b' ∧
      List.Forall₂ (fun e e' => e'.1 = e.1 ∧ Redirected e.2 e'.2)
        b.objects.entries b'.objects.entries) ∧
    ∀ i : ImagesOptions, i.release ≠ ImageTag.latest →
      ∀ s, .imageStream s ∈ Catalog.Images.objects i → s.FloatsTo i.release ∧
        ∀ key b b', b.object? key = some (.imageStream s) → (transform o).run b = .ok b' →
          ∃ s', b'.object? key = some (.imageStream s') ∧ s'.FloatsTo i.release := by
  have hrun : ∀ b, (transform o).run b = .ok (runSteps (steps o b.capabilities) b) := run_eq o
  refine ⟨fun b => ⟨_, hrun b, ?_⟩, fun i hi s hs => ?_⟩
  · rw [entries_runSteps, List.forall₂_map_right_iff, List.forall₂_same]
    exact fun e _ => ⟨rfl, redirected_redirectStream hrelease b.capabilities e.2⟩
  · have hpaired := paired_of_mem hs
    refine ⟨hpaired.floatsTo_iff.2 hi, fun key b b' hkey hb' => ?_⟩
    obtain rfl := Except.ok.inj ((hrun b).symm.trans hb')
    have hfound : (runSteps (steps o b.capabilities) b).object? key =
        some (redirectStream o b.capabilities (.imageStream s)) := by
      rw [Bundle.object?_runSteps, fate_steps, hkey]
      rfl
    rw [hfound]
    rcases redirectStream_eq o b.capabilities s with ⟨image, heq⟩ | heq
    · exact ⟨_, congrArg some heq, (hpaired.map_redirectTag hrelease image).floatsTo_iff.2 hi⟩
    · exact ⟨s, congrArg some heq, hpaired.floatsTo_iff.2 hi⟩

theorem releaseOptions_keeps_floating :
    (∃ b', (transform releaseOptions).run backendBundle = .ok b' ∧
      List.Forall₂ (fun e e' => e'.1 = e.1 ∧ Redirected e.2 e'.2)
        backendBundle.objects.entries b'.objects.entries) ∧
    ∀ s, .imageStream s ∈ Catalog.Images.objects releaseImages →
      s.FloatsTo releaseImages.release ∧
        ∀ key b b', b.object? key = some (.imageStream s) →
          (transform releaseOptions).run b = .ok b' →
          ∃ s', b'.object? key = some (.imageStream s') ∧ s'.FloatsTo releaseImages.release :=
  ⟨(run_keeps_floating (by decide)).1 backendBundle,
    (run_keeps_floating (by decide)).2 releaseImages (by decide)⟩

/-- Options with the name of the floating tag are accepted like any others, and then the floating
tag no longer follows the release. -/
theorem latestOptions_redirects :
    (ProductizedOptions.schema.build latestCalls).toBool ∧
      ∃ b' s', (transform latestOptions).run backendBundle = .ok b' ∧
        b'.object? (.template .imageStream "amp-backend") = some (.imageStream s') ∧
        s'.tag? ImageTag.latest ≠ backendStream.tag? ImageTag.latest := by
  refine ⟨by decide, _, _, rfl, rfl, ?_⟩
  decide

end Productized

end ApiPlatform
