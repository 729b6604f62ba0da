import ApiPlatform.Proofs.Template.Placeholders
import ApiPlatform.Proofs.Text.Ascii
/-!
# Texts that stay free of references

Values are put into a text next to its literal parts and next to each other, so a reference could
arise where two of them meet.  It cannot if a character that occurs in no reference stands between
any two values and no dollar sign and no closing brace is near them.  Such a text is separated, and
values without references leave it without one (`Placeholder.free_of_separated`).
-/

namespace ApiPlatform.Placeholder

variable {value? : String → Option String} {declared : String → Prop}
variable {name cs ds rest out : List Char} {c : Char} {joined : Bool}

/-- No reference stands anywhere in the text. -/
def Free (cs : List Char) : Prop :=
  ∀ before name after, IsName name → cs ≠ before ++ reference name after

/-- A reference stands somewhere in the text. -/
def HasReference (s : String) : Prop :=
  ∃ before name after, IsName name ∧ s.toList = before ++ reference name after

theorem not_hasReference {s : String} : ¬HasReference s ↔ Free s.toList := by
  simp only [HasReference, Free, not_exists, not_and]

/-- A character that occurs in no reference. -/
def breaks (c : Char) : Bool := c ≠ '$' && c ≠ '{' && c ≠ '}' && !isNameChar c

theorem breaks_notMem_reference (hname : IsName name) (hc : breaks c) :
    c ∉ '$' :: '{' :: (name ++ ['}']) := by
  simp only [breaks, Bool.and_eq_true, decide_eq_true_eq, Bool.not_eq_true'] at hc
  obtain ⟨⟨⟨hdollar, hopen⟩, hclose⟩, hnot⟩ := hc
  have hnotMem : c ∉ name := fun hmem => by simp [hname.chars c hmem] at hnot
  simp [hdollar, hopen, hclose, hnotMem]

theorem reference_eq (name rest : List Char) :
    reference name rest = ('$' :: '{' :: (name ++ ['}'])) ++ rest := by
  simp [reference]

/-! ## Free texts -/

theorem free_nil : Free [] := by
  intro before name after _ heq
  simp [reference] at heq

theorem Free.cons (hc : c ≠ '$') (h : Free cs) : Free (c :: cs) := by
  intro before name after hname heq
  cases before with
  | nil => exact hc (List.cons.inj heq).1
  | cons d before => exact h before name after hname (List.cons.inj heq).2

/-- What follows a character that occurs in no reference is read on its own. -/
theorem Free.append_cons (hcs : Free cs) (hc : breaks c) (hds : Free ds) :
    Free (cs ++ c :: ds) := by
  intro before name after hname heq
  have hnotMem := breaks_notMem_reference hname hc
  rcases List.append_eq_append_iff.1 heq with ⟨rest, rfl, hrest⟩ | ⟨rest, rfl, hrest⟩
  · cases rest with
    | nil =>
        have heq : c = '$' := (List.cons.inj hrest).1
        exact hnotMem (heq ▸ List.mem_cons_self)
    | cons d rest => exact hds rest name after hname (List.cons.inj hrest).2
  · rw [reference_eq] at hrest
    rcases List.append_eq_append_iff.1 hrest with ⟨tail, heq, -⟩ | ⟨tail, heq, htail⟩
    · exact hcs before name tail hname (by rw [heq, ← reference_eq])
    · cases tail with
      | nil => exact hcs before name [] hname (by rw [reference_eq, heq]; simp)
      | cons d tail =>
          have hd : c = d := (List.cons.inj htail).1
          exact hnotMem (heq ▸ List.mem_append_right _ (hd ▸ List.mem_cons_self))

/-- Only a closing brace completes a reference. -/
theorem Free.concat (hcs : Free cs) (hc : c ≠ '}') : Free (cs ++ [c]) := by
  intro before name after hname heq
  rcases List.eq_nil_or_concat after with rfl | ⟨after, d, rfl⟩
  · have hsplit : cs ++ [c] = (before ++ '$' :: '{' :: name) ++ ['}'] := by
      rw [heq]
      simp [reference]
    exact hc (List.singleton_inj.1 (List.append_inj' hsplit rfl).2)
  · have hsplit : cs ++ [c] = (before ++ reference name after) ++ [d] := by
      rw [heq]
      simp [reference]
    exact hcs before name after hname (List.append_inj' hsplit rfl).1

theorem free_of_notMem (h : '{' ∉ cs) : Free cs := by
  intro before name after _ heq
  exact h (heq ▸ List.mem_append_right _ (List.mem_cons_of_mem _ List.mem_cons_self))

/-! ## Separated texts -/

/-- A text whose references are all declared and kept apart.  After a reference (`joined`) there is
no other one, no dollar sign and no closing brace before a character that breaks references. -/
inductive Separated (declared : String → Prop) : Bool → List Char → Prop
  | done {joined : Bool} : Separated declared joined []
  | reference {name rest : List Char} (hname : IsName name)
    (hdeclared : declared (String.ofList name)) (hrest : Separated declared true rest) :
    Separated declared false (reference name rest)
  | literal {c : Char} {rest : List Char} (hc : c ≠ '$') (hrest : Separated declared false rest) :
    Separated declared false (c :: rest)
  | breaking {c : Char} {rest : List Char} (hc : breaks c)
    (hrest : Separated declared false rest) : Separated declared true (c :: rest)
  | joined {c : Char} {rest : List Char} (hdollar : c ≠ '$') (hclose : c ≠ '}')
    (hrest : Separated declared true rest) : Separated declared true (c :: rest)

theorem Separated.mono {declared' : String → Prop} (h : Separated declared joined cs)
    (hle : ∀ name, declared name → declared' name) : Separated declared' joined cs := by
  induction h with
  | done => exact .done
  | reference hname hdeclared _ ih => exact .reference hname (hle _ hdeclared) ih
  | literal hc _ ih => exact .literal hc ih
  | breaking hc _ ih => exact .breaking hc ih
  | joined hdollar hclose _ ih => exact .joined hdollar hclose ih

theorem ne_dollar_of_breaks (hc : breaks c) : c ≠ '$' := by
  rintro rfl
  exact absurd hc (by decide)

/-- Values without references leave a separated text without one, also behind another such text if
the separated one goes on from a reference. -/
theorem free_of_separated (hdeclared : ∀ name, declared name → (value? name).isSome)
    (hfree : ∀ name value, value? name = some value → Free value.toList)
    (h : Separated declared joined cs) :
    (joined = false → Free (replaceChars value? 0 cs)) ∧
      (joined = true → ∀ before, Free before → Free (before ++ replaceChars value? 0 cs)) := by
  induction h with
  | done => exact ⟨fun _ => free_nil, fun _ before hbefore => by simpa [replaceChars] using hbefore⟩
  | @reference name rest hname hname' _ ih =>
      refine ⟨fun _ => ?_, by simp⟩
      obtain ⟨value, hvalue⟩ := Option.isSome_iff_exists.1 (hdeclared _ hname')
      rw [replaceChars_replaced hname hvalue]
      exact ih.2 rfl _ (hfree _ _ hvalue)
  | literal hc _ ih =>
      refine ⟨fun _ => ?_, by simp⟩
      rw [replaceChars_plain (leading?_of_ne_dollar hc)]
      exact (ih.1 rfl).cons hc
  | breaking hc _ ih =>
      refine ⟨by simp, fun _ before hbefore => ?_⟩
      rw [replaceChars_plain (leading?_of_ne_dollar (ne_dollar_of_breaks hc))]
      exact hbefore.append_cons hc (ih.1 rfl)
  | @joined c rest hdollar hclose _ ih =>
      refine ⟨by simp, fun _ before hbefore => ?_⟩
      rw [replaceChars_plain (leading?_of_ne_dollar hdollar), List.append_cons]
      exact ih.2 rfl _ (hbefore.concat hclose)

/-- A text without opening braces. -/
def Plain (s : String) : Prop := '{' ∉ s.toList

/-- A text without opening braces, or a separated one. -/
def Fits (declared : String → Prop) (s : String) : Prop :=
  Plain s ∨ Separated declared false s.toList

theorem Plain.not_hasReference {s : String} (h : Plain s) : ¬HasReference s :=
  Placeholder.not_hasReference.2 (free_of_notMem h)

theorem Plain.fits {s : String} (h : Plain s) : Fits declared s := .inl h

theorem Fits.mono {declared' : String → Prop} {s : String} (h : Fits declared s)
    (hle : ∀ name, declared name → declared' name) : Fits declared' s :=
  h.imp_right (·.mono hle)

/-- Nothing is replaced in a plain text. -/
theorem Plain.replace_eq {s : String} (h : Plain s) : replace value? s = s := by
  have hsame : ∀ cs : List Char, '{' ∉ cs → replaceChars value? 0 cs = cs := by
    intro cs hcs
    induction cs with
    | nil => rfl
    | cons c cs ih =>
        have hlead : leading? (c :: cs) = none := by
          cases hlead : leading? (c :: cs) with
          | none => rfl
          | some name =>
              obtain ⟨-, rest, heq⟩ := leading?_eq_some hlead
              exact absurd (heq ▸ List.mem_cons_of_mem _ List.mem_cons_self) hcs
        rw [replaceChars_plain hlead, ih fun hmem => hcs (List.mem_cons_of_mem _ hmem)]
  rw [replace, hsame _ h, String.ofList_toList]

theorem Fits.not_hasReference_replace {s : String} (h : Fits declared s)
    (hdeclared : ∀ name, declared name → (value? name).isSome)
    (hfree : ∀ name value, value? name = some value → ¬HasReference value) :
    ¬HasReference (replace value? s) := by
  rcases h with hplain | hseparated
  · rw [hplain.replace_eq]
    exact hplain.not_hasReference
  · rw [Placeholder.not_hasReference, replace, String.toList_ofList]
    have hfree : ∀ name value, value? name = some value → Free value.toList :=
      fun name value hvalue => Placeholder.not_hasReference.1 (hfree name value hvalue)
    exact (free_of_separated hdeclared hfree hseparated).1 rfl

/-! ## Checking texts -/

/-- Whether a list of characters is separated and its references are to some names; `skip` counts
characters of the reference that was read last. -/
def separates (names : List (List Char)) : Bool → Nat → List Char → Bool
  | _, _, [] => true
  | joined, skip + 1, _ :: rest => separates names joined skip rest
  | false, 0, c :: rest =>
    match leading? (c :: rest) with
    | some name => names.contains name && separates names true (name.length + 2) rest
    | none => c ≠ '$' && separates names false 0 rest
  | true, 0, c :: rest => c ≠ '$' && c ≠ '}' && separates names (!breaks c) 0 rest

/-- Whether no byte of a text is an opening brace. -/
def isPlain (s : String) : Bool := (Text.bytes s).all fun b => !b.toNat.beq 123

/-- Whether a text is plain, or separated with references to some names. -/
def fits (names : List (List Char)) (s : String) : Bool :=
  isPlain s ||
    match Text.ascii? s with
    | some cs => separates names false 0 cs
    | none => false

theorem separated_of_separates {names : List (List Char)} {skip : Nat}
    (h : separates names joined skip cs) :
    Separated (fun name => name.toList ∈ names) joined (cs.drop skip) := by
  induction cs generalizing joined skip with
  | nil =>
      rw [List.drop_nil]
      exact .done
  | cons c cs ih =>
      cases skip with
      | succ skip => exact ih h
      | zero =>
          cases joined with
          | true =>
              simp only [separates, Bool.and_eq_true, decide_eq_true_eq] at h
              obtain ⟨⟨hdollar, hclose⟩, hrest⟩ := h
              have hrest := ih hrest
              cases hc : breaks c with
              | true => exact .breaking hc (by simpa [hc] using hrest)
              | false => exact .joined hdollar hclose (by simpa [hc] using hrest)
          | false =>
              unfold separates at h
              cases hlead : leading? (c :: cs) with
              | none =>
                  simp only [hlead, Bool.and_eq_true, decide_eq_true_eq] at h
                  exact .literal h.1 (ih h.2)
              | some name =>
                  simp only [hlead, Bool.and_eq_true, List.contains_iff_mem] at h
                  obtain ⟨hname, tail, heq⟩ := leading?_eq_some hlead
                  have hrest := ih h.2
                  have htail : cs.drop (name.length + 2) = tail := by
                    rw [reference] at heq
                    rw [(List.cons.inj heq).2, List.drop_succ_cons, ← List.drop_drop,
                      List.drop_left]
                    rfl
                  rw [htail] at hrest
                  rw [List.drop_zero, heq]
                  exact .reference hname (by simpa using h.1) hrest

theorem plain_of_isPlain {s : String} (h : isPlain s) : Plain s := by
  intro hmem
  have hbyte := List.all_eq_true.1 h _ (Text.mem_bytes_of_mem hmem (by decide))
  exact absurd hbyte (by decide)

theorem forall_plain {words : List String} (h : words.all isPlain) : ∀ word ∈ words, Plain word :=
  fun word hword => plain_of_isPlain (List.all_eq_true.1 h word hword)

theorem fits_of_fits {names : List (List Char)} {s : String} (h : fits names s) :
    Fits (fun name => name.toList ∈ names) s := by
  unfold fits at h
  rcases Bool.or_eq_true_iff.1 h with hplain | hchars
  · exact (plain_of_isPlain hplain).fits
  · cases hascii : Text.ascii? s with
    | none => simp [hascii] at hchars
    | some cs =>
        rw [hascii] at hchars
        rw [Fits, Text.toList_of_ascii? hascii]
        exact .inr (separated_of_separates hchars)

end ApiPlatform.Placeholder
