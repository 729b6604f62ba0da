import ApiPlatform.Proofs.Template.Separation
import Mathlib.Data.List.Basic
import Mathlib.Tactic.WLOG
/-!
# The pieces of a text

Where the references of a text stand does not depend on the values that are put in.  So a text falls
into single characters and references, and substitution fills these one by one.  Values matter to a
text exactly if it mentions their names.
-/

namespace ApiPlatform

/-- Lists of parts that differ in one part only are not put together to the same list: either that
part is longer in one of them, and so is the whole, or it can be found at the same place. -/
theorem flatMap_ne_flatMap {α β : Type} {f g : α → List β} {l : List α} {a : α} (ha : a ∈ l)
    (hothers : ∀ b, b ≠ a → f b = g b) (hne : f a ≠ g a) : l.flatMap f ≠ l.flatMap g := by
  wlog hle : (f a).length ≤ (g a).length generalizing f g
  · exact (this (fun b hb => (hothers b hb).symm) hne.symm (Nat.le_of_not_le hle)).symm
  intro heq
  obtain ⟨before, after, rfl, hbefore⟩ := List.eq_append_cons_of_mem ha
  have hfront : before.flatMap f = before.flatMap g :=
    List.flatMap_congr fun b hb => hothers b fun h => hbefore (h ▸ hb)
  have hlength : ∀ l : List α, (l.flatMap f).length ≤ (l.flatMap g).length := by
    intro l
    induction l with
    | nil => exact Nat.le_refl _
    | cons b l ih =>
        have hb : (f b).length ≤ (g b).length := by
          by_cases h : b = a
          · exact h ▸ hle
          · exact (congrArg List.length (hothers b h)).le
        simp only [List.flatMap_cons, List.length_append]
        omega
  rw [List.flatMap_append, List.flatMap_append, hfront, List.flatMap_cons, List.flatMap_cons] at heq
  have hback := List.append_cancel_left heq
  have hsame : (f a).length = (g a).length := by
    have htotal := congrArg List.length hback
    have hafter := hlength after
    simp only [List.length_append] at htotal
    omega
  exact hne (List.append_inj_left hback hsame)

namespace Placeholder

/-- A part of a text as substitution reads it. -/
inductive Piece where
  | literal (c : Char)
  | reference (name : List Char)

/-- What a part of a text becomes; a reference without a value stays. -/
def Piece.fill (value? : String → Option String) : Piece → List Char
  | .literal c => [c]
  | .reference name =>
    match value? (String.ofList name) with
    | some value => value.toList
    | none => Placeholder.reference name []

/-- The name that a part of a text refers to. -/
def Piece.name? : Piece → Option (List Char)
  | .literal _ => none
  | .reference name => some name

/-- The parts of a text; `skip` counts characters of the reference that was read last. -/
def pieces : Nat → List Char → List Piece
  | _, [] => []
  | skip + 1, _ :: rest => pieces skip rest
  | 0, c :: rest =>
    match leading? (c :: rest) with
    | some name => .reference name :: pieces (name.length + 2) rest
    | none => .literal c :: pieces 0 rest

variable {value? value?' : String → Option String} {declared : String → Prop}
variable {name cs rest out : List Char} {c : Char} {joined : Bool}

theorem pieces_skip (n : Nat) (cs : List Char) : pieces n cs = pieces 0 (cs.drop n) := by
  induction cs generalizing n with
  | nil => cases n <;> rfl
  | cons c cs ih =>
      cases n with
      | zero => rfl
      | succ n => exact ih n

theorem pieces_plain (h : leading? (c :: rest) = none) :
    pieces 0 (c :: rest) = .literal c :: pieces 0 rest := by
  rw [pieces, h]

theorem pieces_reference (hname : IsName name) (rest : List Char) :
    pieces 0 (reference name rest) = .reference name :: pieces 0 rest := by
  have hlead := leading?_reference hname rest
  have hdrop : ('{' :: (name ++ '}' :: rest)).drop (name.length + 2) = rest := by
    rw [List.drop_succ_cons, ← List.drop_drop, List.drop_left]
    rfl
  rw [reference] at hlead ⊢
  rw [pieces, hlead]
  dsimp only
  rw [pieces_skip, hdrop]

theorem Substituted.eq_fill (h : Substituted value? cs out) :
    out = (pieces 0 cs).flatMap (·.fill value?) := by
  induction h with
  | done => rfl
  | replaced hname hvalue _ ih =>
      rw [pieces_reference hname, List.flatMap_cons, ← ih, Piece.fill, hvalue]
  | kept hname hvalue _ ih =>
      rw [pieces_reference hname, List.flatMap_cons, ← ih, Piece.fill, hvalue]
      simp [reference]
  | @plain c rest out hplain _ ih =>
      have hlead : leading? (c :: rest) = none := by
        cases hlead : leading? (c :: rest) with
        | none => rfl
        | some name =>
            obtain ⟨hname, tail, heq⟩ := leading?_eq_some hlead
            exact absurd heq (hplain name tail hname)
      rw [pieces_plain hlead, List.flatMap_cons, ← ih]
      rfl

/-- Substitution fills a text piece by piece. -/
theorem replace_eq_fill (value? : String → Option String) (s : String) :
    replace value? s = String.ofList ((pieces 0 s.toList).flatMap (·.fill value?)) :=
  congrArg String.ofList (substituted_replaceChars s.toList).eq_fill

/-! ## The names in a text -/

/-- Whether a text refers to a name. -/
def Mentions (s name : String) : Prop := .reference name.toList ∈ pieces 0 s.toList

/-- Only the values of names that a text mentions matter to it. -/
theorem replace_congr {s : String} (h : ∀ name, Mentions s name → value? name = value?' name) :
    replace value? s = replace value?' s := by
  rw [replace_eq_fill, replace_eq_fill]
  refine congrArg String.ofList (List.flatMap_congr fun piece hpiece => ?_)
  cases piece with
  | literal c => rfl
  | reference name =>
      have hmentions : Mentions s (String.ofList name) := by
        rwa [Mentions, String.toList_ofList]
      simp only [Piece.fill, h _ hmentions]

/-- The value of a name that a text mentions can be told from the text with all values put in. -/
theorem replace_ne {s name value value' : String} (hmentions : Mentions s name)
    (hothers : ∀ other, other ≠ name → value? other = value?' other)
    (hvalue : value? name = some value) (hvalue' : value?' name = some value')
    (hne : value ≠ value') : replace value? s ≠ replace value?' s := by
  rw [replace_eq_fill, replace_eq_fill]
  refine fun heq => flatMap_ne_flatMap hmentions ?_ ?_ (String.ofList_injective heq)
  · intro piece hpiece
    cases piece with
    | literal c => rfl
    | reference other =>
        have hother : String.ofList other ≠ name := by
          rintro rfl
          exact hpiece (by rw [String.toList_ofList])
        simp only [Piece.fill, hothers _ hother]
  · simp only [Piece.fill, String.ofList_toList, hvalue, hvalue']
    exact fun heq => hne (String.toList_injective heq)

/-! ## Texts of which the names are known -/

/-- A reference that is read stands in the text. -/
theorem reference_infix_of_mem_pieces {skip : Nat} (h : .reference name ∈ pieces skip cs) :
    reference name [] <:+: cs := by
  induction cs generalizing skip with
  | nil => cases skip <;> cases h
  | cons c cs ih =>
      cases skip with
      | succ skip => exact List.infix_cons (ih h)
      | zero =>
          cases hlead : leading? (c :: cs) with
          | some first =>
              rw [pieces, hlead] at h
              rcases List.mem_cons.1 h with heq | hrest
              · obtain ⟨-, rest, hrest⟩ := leading?_eq_some hlead
                obtain rfl := Piece.reference.inj heq
                exact ⟨[], rest, by simp [hrest, reference]⟩
              · exact List.infix_cons (ih hrest)
          | none =>
              rw [pieces_plain hlead] at h
              exact List.infix_cons (ih (by simpa using h))

theorem mem_of_reference_mem_pieces {skip : Nat} (h : .reference name ∈ pieces skip cs) :
    '{' ∈ cs :=
  (reference_infix_of_mem_pieces h).subset (List.mem_cons_of_mem _ List.mem_cons_self)

theorem Separated.declared_of_mem_pieces (h : Separated declared joined cs)
    (hmem : .reference name ∈ pieces 0 cs) : declared (String.ofList name) := by
  have hplain : ∀ {c : Char} {rest : List Char}, c ≠ '$' →
      .reference name ∈ pieces 0 (c :: rest) → .reference name ∈ pieces 0 rest := by
    intro c rest hc hmem
    rw [pieces_plain (leading?_of_ne_dollar hc)] at hmem
    exact (List.mem_cons.1 hmem).resolve_left nofun
  induction h with
  | done => cases hmem
  | reference hname hdeclared _ ih =>
      rw [pieces_reference hname] at hmem
      rcases List.mem_cons.1 hmem with heq | hmem
      · exact (Piece.reference.inj heq) ▸ hdeclared
      · exact ih hmem
  | literal hc _ ih => exact ih (hplain hc hmem)
  | breaking hc _ ih => exact ih (hplain (ne_dollar_of_breaks hc) hmem)
  | joined hdollar _ _ ih => exact ih (hplain hdollar hmem)

theorem Fits.declared_of_mentions {s name : String} (h : Fits declared s)
    (hmentions : Mentions s name) : declared name := by
  rcases h with hplain | hseparated
  · exact absurd (mem_of_reference_mem_pieces hmentions) hplain
  · rw [← String.ofList_toList (s := name)]
    exact hseparated.declared_of_mem_pieces hmentions

/-- The names that an ASCII text mentions. -/
def mentioned (s : String) : List (List Char) :=
  if isPlain s then []
  else
    match Text.ascii? s with
    | some cs => (pieces 0 cs).filterMap Piece.name?
    | none => []

theorem mentions_of_mem_mentioned {s name : String} (h : name.toList ∈ mentioned s) :
    Mentions s name := by
  unfold mentioned at h
  split at h
  · cases h
  · cases hascii : Text.ascii? s with
    | none => simp [hascii] at h
    | some cs =>
        rw [hascii] at h
        obtain ⟨piece, hpiece, hname⟩ := List.mem_filterMap.1 h
        cases piece with
        | literal c => cases hname
        | reference other =>
            rw [Mentions, Text.toList_of_ascii? hascii, ← Option.some.inj hname]
            exact hpiece

end Placeholder

end ApiPlatform
