import ApiPlatform.Template.Placeholder
import Mathlib.Data.List.TakeWhile
/-!
# Substitution in one pass

What it means to substitute from left to right is said without an algorithm: a text begins with a
reference or it does not, and whatever follows the reference is read on its own.  Replacing does
exactly that.
-/

namespace ApiPlatform.Placeholder

variable {value? : String → Option String} {name cs rest out : List Char} {c : Char}

/-- A nonempty list of characters that may stand in a name. -/
structure IsName (name : List Char) : Prop where
  nonempty : name ≠ []
  chars : ∀ c ∈ name, isNameChar c

/-- A text that refers to a name at its beginning. -/
def reference (name rest : List Char) : List Char := '$' :: '{' :: (name ++ '}' :: rest)

/-- One pass of substitution from left to right. -/
inductive Substituted (value? : String → Option String) : List Char → List Char → Prop where
  | done : Substituted value? [] []
  | replaced {name rest out : List Char} {value : String} (hname : IsName name)
    (hvalue : value? (String.ofList name) = some value) (hrest : Substituted value? rest out) :
    Substituted value? (reference name rest) (value.toList ++ out)
  | kept {name rest out : List Char} (hname : IsName name)
    (hvalue : value? (String.ofList name) = none) (hrest : Substituted value? rest out) :
    Substituted value? (reference name rest) (reference name out)
  | plain {c : Char} {rest out : List Char}
    (hplain : ∀ name tail, IsName name → c :: rest ≠ reference name tail)
    (hrest : Substituted value? rest out) : Substituted value? (c :: rest) (c :: out)

/-! ## The reference at the beginning -/

theorem IsName.takeWhile (h : IsName name) (rest : List Char) :
    (name ++ '}' :: rest).takeWhile isNameChar = name := by
  rw [List.takeWhile_append_of_pos h.chars, List.takeWhile_cons_of_neg (by decide),
    List.append_nil]

theorem leading?_reference (h : IsName name) (rest : List Char) :
    leading? (reference name rest) = some name := by
  have hempty : name.isEmpty = false := by
    simpa using h.nonempty
  simp only [leading?, reference, h.takeWhile, List.drop_left, hempty]
  rfl

theorem leading?_eq_some (h : leading? cs = some name) :
    IsName name ∧ ∃ rest, cs = reference name rest := by
  unfold leading? at h
  split at h
  · next tail =>
      dsimp only at h
      split at h
      · next rest hdrop =>
          split at h
          · cases h
          · next hne =>
              cases h
              refine ⟨⟨by simpa using hne, fun c hc => List.mem_takeWhile_imp hc⟩, rest, ?_⟩
              have hsplit := List.take_append_drop (tail.takeWhile isNameChar).length tail
              have htake : tail.take (tail.takeWhile isNameChar).length =
                  tail.takeWhile isNameChar :=
                List.prefix_iff_eq_take.1 (List.takeWhile_prefix isNameChar) |>.symm
              rw [hdrop, htake] at hsplit
              rw [reference, hsplit]
      · cases h
  · cases h

/-! ## Replacing -/

theorem replaceChars_skip (n : Nat) (cs : List Char) :
    replaceChars value? n cs = replaceChars value? 0 (cs.drop n) := by
  induction cs generalizing n with
  | nil => cases n <;> rfl
  | cons c cs ih =>
      cases n with
      | zero => rfl
      | succ n => exact ih n

theorem replaceChars_plain (h : leading? (c :: rest) = none) :
    replaceChars value? 0 (c :: rest) = c :: replaceChars value? 0 rest := by
  rw [replaceChars, h]

theorem leading?_of_ne_dollar (hc : c ≠ '$') : leading? (c :: rest) = none := by
  unfold leading?
  split
  · next heq => exact absurd (List.cons.inj heq).1 hc
  · rfl

theorem replaceChars_append (hcs : ∀ c ∈ cs, c ≠ '$') :
    replaceChars value? 0 (cs ++ rest) = cs ++ replaceChars value? 0 rest := by
  induction cs with
  | nil => rfl
  | cons c cs ih =>
      obtain ⟨hc, hrest⟩ := List.forall_mem_cons.1 hcs
      rw [List.cons_append, replaceChars_plain (leading?_of_ne_dollar hc), ih hrest]
      rfl

theorem replaceChars_replaced {value : String} (hname : IsName name)
    (hvalue : value? (String.ofList name) = some value) :
    replaceChars value? 0 (reference name rest) =
      value.toList ++ replaceChars value? 0 rest := by
  have hlead := leading?_reference hname rest
  have hdrop : ('{' :: (name ++ '}' :: rest)).drop (name.length + 2) = rest := by
    rw [List.drop_succ_cons, ← List.drop_drop, List.drop_left]
    rfl
  rw [reference] at hlead ⊢
  rw [replaceChars, hlead]
  dsimp only
  rw [hvalue]
  dsimp only
  rw [replaceChars_skip, hdrop]

/-- A reference without a value is copied with its braces, and reading goes on behind it. -/
theorem replaceChars_kept (hname : IsName name) (hvalue : value? (String.ofList name) = none) :
    replaceChars value? 0 (reference name rest) =
      reference name (replaceChars value? 0 rest) := by
  have hlead := leading?_reference hname rest
  -- No dollar sign stands between the braces, so nothing can begin there.
  have hname' : ∀ c ∈ '{' :: (name ++ ['}']), c ≠ '$' := by
    intro c hc
    rcases List.mem_cons.1 hc with rfl | hc
    · decide
    · rcases List.mem_append.1 hc with hc | hc
      · rintro rfl
        exact absurd (hname.chars '$' hc) (by decide)
      · rw [List.mem_singleton.1 hc]
        decide
  have hcopied : replaceChars value? 0 ('{' :: (name ++ ['}']) ++ rest) =
      '{' :: (name ++ ['}']) ++ replaceChars value? 0 rest := replaceChars_append hname'
  rw [reference] at hlead ⊢
  rw [replaceChars, hlead]
  dsimp only
  rw [hvalue]
  dsimp only
  rw [reference]
  simpa using hcopied

theorem substituted_replaceChars (cs : List Char) :
    Substituted value? cs (replaceChars value? 0 cs) := by
  -- On the length, since what follows a reference is read next and is not the tail of the text.
  induction hlen : cs.length using Nat.strong_induction_on generalizing cs with
  | _ n ih =>
      cases cs with
      | nil => exact .done
      | cons c rest =>
          cases hlead : leading? (c :: rest) with
          | none =>
              rw [replaceChars_plain hlead]
              refine .plain ?_ (ih rest.length (by simp [← hlen]) rest rfl)
              intro name tail hname heq
              rw [heq, leading?_reference hname] at hlead
              cases hlead
          | some name =>
              obtain ⟨hname, tail, heq⟩ := leading?_eq_some hlead
              have hshorter : tail.length < n := by
                rw [← hlen, heq]
                simp [reference]
                omega
              have htail := ih tail.length hshorter tail rfl
              rw [heq]
              cases hvalue : value? (String.ofList name) with
              | none =>
                  rw [replaceChars_kept hname hvalue]
                  exact .kept hname hvalue htail
              | some value =>
                  rw [replaceChars_replaced hname hvalue]
                  exact .replaced hname hvalue htail

theorem Substituted.eq_replaceChars (h : Substituted value? cs out) :
    out = replaceChars value? 0 cs := by
  induction h with
  | done => rfl
  | replaced hname hvalue _ ih => rw [replaceChars_replaced hname hvalue, ← ih]
  | kept hname hvalue _ ih => rw [replaceChars_kept hname hvalue, ← ih]
  | @plain c rest out hplain _ ih =>
      have hlead : leading? (c :: rest) = none := by
        cases hlead : leading? (c :: rest) with
        | none => rfl
        | some name =>
            obtain ⟨hname, tail, heq⟩ := leading?_eq_some hlead
            exact absurd heq (hplain name tail hname)
      rw [replaceChars_plain hlead, ← ih]

/-- Replacing is substitution in one pass, and nothing else is. -/
theorem substituted_iff {s t : String} :
    Substituted value? s.toList t.toList ↔ t = replace value? s := by
  unfold replace
  constructor
  · intro h
    rw [← h.eq_replaceChars, String.ofList_toList]
  · rintro rfl
    rw [String.toList_ofList]
    exact substituted_replaceChars s.toList

end ApiPlatform.Placeholder
