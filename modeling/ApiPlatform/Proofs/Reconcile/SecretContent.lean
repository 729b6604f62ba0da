import ApiPlatform.Proofs.Reconcile.MinimalCopy
/-!
# What a Secret holds

A Secret holds bytes, some of them written as texts.  Secrets are compared by what they say as
texts, and a text stands for its bytes, so live and wanted Secret come to hold the same wherever
they hold texts (`Secret.copyOnto_converges`).  Bytes that are no text can be told from no other
ones that read alike (`Secret.unreadable_unchanged`).
-/

namespace ApiPlatform

/-- The bytes are some text in UTF-8. -/
def Bytes.IsText (b : Bytes) : Prop := ∃ t, Bytes.ofText t = b

/-- Reading tells texts apart. -/
theorem Bytes.IsText.eq_of_toTextLossy_eq {b b' : Bytes} (h : b.IsText) (h' : b'.IsText)
    (heq : b.toTextLossy = b'.toTextLossy) : b = b' := by
  obtain ⟨t, rfl⟩ := h
  obtain ⟨t', rfl⟩ := h'
  rw [toTextLossy_ofText, toTextLossy_ofText] at heq
  rw [heq]

namespace Secret

/-- The bytes under each key: those of the text if there is one, and else those of the data. -/
def content (s : Secret) : SortedMap String Bytes :=
  (s.data.getD .empty).union ((s.stringData.getD .empty).mapValues Bytes.ofText)

/-- What stands under the key, if anything does, is a text. -/
def ReadableAt (s : Secret) (key : String) : Prop := ∀ b, s.content.get? key = some b → b.IsText

variable {wanted live s t : Secret} {key : String}

theorem get?_content (s : Secret) (key : String) :
    s.content.get? key =
      (((s.stringData.getD .empty).get? key).map Bytes.ofText).or
        ((s.data.getD .empty).get? key) := by
  simp [content]

/-- A Secret says what its bytes are read as. -/
theorem get?_strings (s : Secret) (key : String) :
    s.strings.get? key = (s.content.get? key).map Bytes.toTextLossy := by
  rw [get?_content, strings, SortedMap.get?_union, SortedMap.get?_mapValues]
  cases (s.stringData.getD .empty).get? key <;> simp

/-- A Secret that is written as texts is readable throughout. -/
theorem readableAt_of_data_eq_none (h : s.data = none) (key : String) : s.ReadableAt key := by
  intro b hb
  rw [get?_content, h, Option.getD_none, SortedMap.get?_empty, Option.or_none] at hb
  obtain ⟨t, -, rfl⟩ := Option.map_eq_some_iff.1 hb
  exact ⟨t, rfl⟩

/-- Where two Secrets are readable and say the same, they hold the same. -/
theorem get?_content_eq (hs : s.ReadableAt key) (ht : t.ReadableAt key)
    (h : s.strings.get? key = t.strings.get? key) :
    s.content.get? key = t.content.get? key := by
  rw [get?_strings, get?_strings] at h
  cases hb : s.content.get? key with
  | none =>
      rw [hb] at h
      exact (Option.map_eq_none_iff.1 h.symm).symm
  | some b =>
      rw [hb, Option.map_some] at h
      obtain ⟨b', hb', heq⟩ := Option.map_eq_some_iff.1 h.symm
      rw [hb', (hs b hb).eq_of_toTextLossy_eq (ht b' hb') heq.symm]

/-- After a copy that changed something, the bytes are those of the wanted texts. -/
theorem readableAt_copyOnto (h : (wanted.copyOnto live).2 ≠ []) (key : String) :
    (wanted.copyOnto live).1.ReadableAt key := by
  have hdiffers := mt (wanted.copyOnto_snd_eq_nil_iff live).2 h
  rw [wanted.copyOnto_of_strings_ne live hdiffers]
  exact readableAt_of_data_eq_none rfl key

/-- If nothing is reported live and wanted Secret say the same, and hold the same wherever both hold
a text.  If a change is reported they say the same afterwards, and hold the same wherever the wanted
one holds a text. -/
theorem copyOnto_converges (wanted live : Secret) :
    ((wanted.copyOnto live).2 = [] → ∀ key,
      (live.content.get? key).map Bytes.toTextLossy =
          (wanted.content.get? key).map Bytes.toTextLossy ∧
        (live.ReadableAt key → wanted.ReadableAt key →
          live.content.get? key = wanted.content.get? key)) ∧
      ((wanted.copyOnto live).2 ≠ [] → ∀ key,
        ((wanted.copyOnto live).1.content.get? key).map Bytes.toTextLossy =
            (wanted.content.get? key).map Bytes.toTextLossy ∧
          (wanted.ReadableAt key →
            (wanted.copyOnto live).1.content.get? key = wanted.content.get? key)) := by
  have hstrings := strings_copyOnto wanted live
  constructor
  · intro hnone key
    have hsame : live.strings.get? key = wanted.strings.get? key := by
      rw [(wanted.copyOnto_snd_eq_nil_iff live).1 hnone]
    refine ⟨?_, fun hlive hwanted => get?_content_eq hlive hwanted hsame⟩
    rw [← get?_strings, ← get?_strings, hsame]
  · intro hsome key
    refine ⟨?_, fun hwanted => ?_⟩
    · rw [← get?_strings, ← get?_strings, hstrings]
    · exact get?_content_eq (readableAt_copyOnto hsome key) hwanted (by rw [hstrings])

/-- A value that is no text. -/
def binary : Secret :=
  { metadata := { name := some "token", «namespace» := some "apis" }
    data := some (.ofList [("value", [0xff])]) }

/-- What the value of `binary` is read as. -/
def replacement : Secret :=
  { metadata := { name := some "token", «namespace» := some "apis" }
    stringData := some (.ofList [("value", "\ufffd")]) }

/-- Bytes that are no text are left where the text that they are read as is wanted. -/
theorem unreadable_unchanged :
    (replacement.copyOnto binary).2 = [] ∧
      binary.content.get? "value" ≠ replacement.content.get? "value" := by
  decide +kernel

end Secret

end ApiPlatform
