import ApiPlatform.Proofs.Json.Every
import ApiPlatform.Proofs.Template.Separation
import ApiPlatform.Proofs.Transform.Run
/-!
# The strings that transforms leave

A transform writes its options and fixed words into objects, and otherwise keeps or drops what is
there.  So if every key was plain and every other string fitted the declared parameters, this holds
of the changed objects as well.
-/

namespace ApiPlatform

open Placeholder (Plain Fits plain_of_isPlain)

variable {K S : String → Prop} {declared : String → Prop}

/-! ## What is written -/

theorem every_overlaid {entries : Option (SortedMap String String)} {new : List (String × String)}
    (hentries : ∀ m ∈ entries, ∀ e ∈ m.entries, K e.1 ∧ S e.2) (hnew : ∀ e ∈ new, K e.1 ∧ S e.2) :
    ∀ e ∈ ((entries.getD .empty).insertMany new).entries, K e.1 ∧ S e.2 := by
  intro e he
  rcases SortedMap.mem_of_mem_insertMany he with he | he
  · exact hnew e he
  · cases entries with
    | none => cases he
    | some m => exact hentries m rfl e he

/-- The fixed words that transforms write into objects. -/
theorem plain_words :
    Plain "from" ∧ Plain "kind" ∧ Plain "name" ∧ Plain "DockerImage" ∧ Plain "spec" ∧
      Plain "replicas" ∧ Plain "selector" ∧ Plain "template" ∧ Plain "stringData" ∧ Plain "data" ∧
      Plain "env" ∧ Plain "valueFrom" ∧ Plain "configMapKeyRef" ∧ Plain "secretKeyRef" ∧
      Plain "key" ∧ Plain ExternalStorage.storageKey ∧ Plain ExternalStorage.bucketKey ∧
      Plain ExternalStorage.regionKey ∧ Plain ExternalStorage.accessKeyIdKey ∧
      Plain ExternalStorage.secretAccessKeyKey ∧ Plain Catalog.accessKeyIdField ∧
      Plain Catalog.secretAccessKeyField := by
  and_intros <;> exact plain_of_isPlain (by decide)

namespace Resource

@[simp] theorem every_deployment (d : Deployment) :
    (Resource.deployment d).toJson.Every K S ↔ Deployment.codec.Every K S d := Iff.rfl

@[simp] theorem every_deploymentConfig (d : DeploymentConfig) :
    (Resource.deploymentConfig d).toJson.Every K S ↔ DeploymentConfig.codec.Every K S d := Iff.rfl

@[simp] theorem every_imageStream (s : ImageStream) :
    (Resource.imageStream s).toJson.Every K S ↔ ImageStream.codec.Every K S s := Iff.rfl

@[simp] theorem every_secret (s : Secret) :
    (Resource.secret s).toJson.Every K S ↔ Secret.codec.Every K S s := Iff.rfl

@[simp] theorem every_configMap (c : ConfigMap) :
    (Resource.configMap c).toJson.Every K S ↔ ConfigMap.codec.Every K S c := Iff.rfl

theorem every_modifyPodSpec {f : PodSpec → PodSpec} {r : Resource}
    (hf : ∀ p, PodSpec.codec.Every K S p → PodSpec.codec.Every K S (f p))
    (h : r.toJson.Every K S) : (r.modifyPodSpec f).toJson.Every K S := by
  cases r with
  | deployment d =>
      rcases d with ⟨_, _ | ⟨_, _, _, _ | _⟩, _⟩ <;>
        simp_all [modifyPodSpec, Deployment.codec, DeploymentSpec.codec, PodTemplate.codec]
  | deploymentConfig d =>
      rcases d with ⟨_, _, _, _, _, _ | ⟨_, _ | _⟩⟩ <;>
        simp_all [modifyPodSpec, DeploymentConfig.codec, DeploymentConfigSpec.codec,
          PodTemplate.codec]
  | _ => exact h

end Resource

/-! ## Evaluation -/

namespace Evaluation

theorem every_relax {c : Container} (h : Container.codec.Every K S c) :
    Container.codec.Every K S (relax c) := by
  simp_all [relax, Container.codec]

theorem every_relaxPod {p : PodSpec} (h : PodSpec.codec.Every K S p) :
    PodSpec.codec.Every K S (relaxPod p) := by
  have hrelax : ∀ c, Container.codec.Every K S c → Container.codec.Every K S (relax c) :=
    fun c => every_relax
  rcases p with ⟨_, _ | _, _, _, _⟩ <;> simp_all [relaxPod, PodSpec.codec]

end Evaluation

/-! ## Product images -/

namespace Productized

variable {o : ProductizedOptions}

theorem every_redirectTag {image : ProductImage} {t : ImageTag} (himage : Plain (o.image image))
    (h : ImageTag.codec.Every Plain (Fits declared) t) :
    ImageTag.codec.Every Plain (Fits declared) (redirectTag o image t) := by
  unfold redirectTag
  split
  · simp_all [ImageTag.codec, ImageTag.dockerImage, ObjectReference.codec, plain_words,
      Plain.fits]
  · exact h

theorem every_redirectStream {c : Capabilities} {r : Resource}
    (himage : ∀ image, Plain (o.image image)) (h : r.toJson.Every Plain (Fits declared)) :
    (redirectStream o c r).toJson.Every Plain (Fits declared) := by
  cases r with
  | imageStream s =>
      unfold redirectStream
      dsimp only
      split
      · next image _ =>
          have htag : ∀ t, ImageTag.codec.Every Plain (Fits declared) t →
              ImageTag.codec.Every Plain (Fits declared) (redirectTag o image t) :=
            fun t => every_redirectTag (himage image)
          simp_all [ImageStream.codec]
      · exact h
  | _ => exact h

end Productized

/-! ## External databases -/

namespace HighAvailability

theorem every_scale {replicas : Int32} {c : Capabilities} {r : Resource}
    (h : r.toJson.Every Plain S) : (scale replicas c r).toJson.Every Plain S := by
  unfold scale
  split
  · cases r with
    | deployment d =>
        rcases d with ⟨_, _ | ⟨_, _, _⟩, _⟩ <;>
          simp_all [Resource.withReplicas, Deployment.codec, DeploymentSpec.codec,
            PodTemplate.codec, plain_words]
    | deploymentConfig d =>
        simp_all [Resource.withReplicas, DeploymentConfig.codec, DeploymentConfigSpec.codec]
    | _ => exact h
  · exact h

theorem every_writeEntry {field url : String} {r : Resource} (hfield : Plain field)
    (hurl : Fits declared url) (h : r.toJson.Every Plain (Fits declared)) :
    (writeEntry field url r).toJson.Every Plain (Fits declared) := by
  cases r with
  | secret s =>
      simp only [writeEntry, Resource.every_secret, Secret.codec, Fields.every_codec,
        Fields.every_iso, Fields.every_and, Fields.every_optional, Codec.every_map] at h ⊢
      obtain ⟨hkind, hdata, himmutable, hmetadata, htexts, htype⟩ := h
      refine ⟨hkind, hdata, himmutable, hmetadata, fun texts hset => ?_, htype⟩
      obtain rfl := Option.some.inj hset
      have hnew : ∀ e ∈ [(field, url)], Plain e.1 ∧ Codec.string.Every Plain (Fits declared) e.2 :=
        List.forall_mem_singleton.2 ⟨hfield, (Codec.every_string url).2 hurl⟩
      have hall := every_overlaid (fun m hm => (htexts m hm).2) hnew
      exact ⟨by simp [plain_words], hall⟩
  | _ => exact h

end HighAvailability

/-! ## External storage -/

namespace ExternalStorage

open Catalog (ObjectStorageOptions)

variable {o : ObjectStorageOptions} {s : SharedStorage}

theorem every_writeSettings {r : Resource} (hstorage : Fits declared o.fileUploadStorage)
    (hbucket : Fits declared o.bucket) (hregion : Fits declared o.region)
    (h : r.toJson.Every Plain (Fits declared)) :
    (writeSettings o r).toJson.Every Plain (Fits declared) := by
  cases r with
  | configMap c =>
      simp only [writeSettings, Resource.every_configMap, ConfigMap.codec, Fields.every_codec,
        Fields.every_iso, Fields.every_and, Fields.every_optional, Codec.every_map] at h ⊢
      obtain ⟨hkind, hbinary, hdata, hrest⟩ := h
      refine ⟨hkind, hbinary, fun data hset => ?_, hrest⟩
      obtain rfl := Option.some.inj hset
      refine ⟨by simp [plain_words], ?_⟩
      refine every_overlaid (fun m hm => (hdata m hm).2) ?_
      simp [plain_words, hstorage, hbucket, hregion]
  | _ => exact h

theorem every_env (hsecret : Fits declared o.credentialsSecret)
    (hconfigMap : Plain s.environmentConfigMap) :
    ∀ v ∈ env o s, EnvVar.codec.Every Plain (Fits declared) v := by
  simp [env, EnvVar.ofConfigMap, EnvVar.ofSecret, EnvVar.codec, EnvSource.codec,
    KeySelector.codec, plain_words, hsecret, hconfigMap, Plain.fits]

theorem every_unmount {c : Container} (h : Container.codec.Every K S c) :
    Container.codec.Every K S (unmount s c) := by
  rcases c with ⟨_, _, _, _, _, _, _, _, _, _, _, _ | _⟩ <;> simp_all [unmount, Container.codec]

theorem every_addEnv {c : Container} {vars : List EnvVar}
    (hvars : ∀ v ∈ vars, EnvVar.codec.Every Plain S v)
    (h : Container.codec.Every Plain S c) : Container.codec.Every Plain S (c.addEnv vars) := by
  rcases c with ⟨_, _, _ | _, _, _, _, _, _, _, _, _, _⟩ <;>
    simp_all [Container.addEnv, Container.codec, plain_words, or_imp, forall_and]

theorem every_movePod {p : PodSpec} (henv : ∀ v ∈ env o s, EnvVar.codec.Every Plain S v)
    (h : PodSpec.codec.Every Plain S p) : PodSpec.codec.Every Plain S (movePod o s p) := by
  have hunmount : ∀ c, Container.codec.Every Plain S c →
      Container.codec.Every Plain S (unmount s c) := fun c => every_unmount
  have hmoved : ∀ c, Container.codec.Every Plain S c →
      Container.codec.Every Plain S ((unmount s c).addEnv (env o s)) :=
    fun c hc => every_addEnv henv (every_unmount hc)
  rcases p with ⟨_, _ | _, _, _, _ | _⟩ <;> simp_all [movePod, PodSpec.codec]

theorem every_moveHook {p : HookPod} (henv : ∀ v ∈ env o s, EnvVar.codec.Every Plain S v)
    (h : HookPod.codec.Every Plain S p) : HookPod.codec.Every Plain S (moveHook o s p) := by
  simp only [moveHook, HookPod.codec, Fields.every_recordCodec, Fields.every_iso,
    Fields.every_and, Fields.every_omittedAs, Codec.every_list] at h ⊢
  obtain ⟨hcommand, hvars, hcontainer, hvolumes⟩ := h
  refine ⟨hcommand, fun _ => ⟨by simp [plain_words], ?_⟩, hcontainer, fun hkept => ?_⟩
  · intro v hv
    rcases List.mem_append.1 hv with hv | hv
    · exact (hvars (List.ne_nil_of_mem hv)).2 v hv
    · exact henv v hv
  · have hsome : p.volumes ≠ [] := fun hnil => hkept (by rw [hnil]; rfl)
    obtain ⟨hkey, hnames⟩ := hvolumes hsome
    exact ⟨hkey, fun n hn => hnames n (List.mem_filter.1 hn).1⟩

theorem every_moveStrategy {r : Resource} (henv : ∀ v ∈ env o s, EnvVar.codec.Every Plain S v)
    (h : r.toJson.Every Plain S) : (moveStrategy o s r).toJson.Every Plain S := by
  cases r with
  | deploymentConfig d =>
      have hhook : ∀ p, HookPod.codec.Every Plain S p →
          HookPod.codec.Every Plain S (moveHook o s p) := fun p => every_moveHook henv
      rcases d with ⟨_, _, _, ⟨_, _ | ⟨_, _, _, _, _, _ | ⟨_, _ | _⟩⟩⟩, _, _⟩ <;>
        simp_all [moveStrategy, RolloutStrategy.modifyHookPod, DeploymentConfig.codec,
          DeploymentConfigSpec.codec, RolloutStrategy.codec, RollingParams.codec,
          LifecycleHook.codec]
  | _ => exact h

theorem every_moveWorkload {r : Resource} (henv : ∀ v ∈ env o s, EnvVar.codec.Every Plain S v)
    (h : r.toJson.Every Plain S) : (moveWorkload o s r).toJson.Every Plain S := by
  unfold moveWorkload
  split
  · exact Resource.every_modifyPodSpec (fun p => every_movePod henv) (every_moveStrategy henv h)
  · exact h

end ExternalStorage

end ApiPlatform
