import ApiPlatform.Proofs.Template.Resolution
import Mathlib.Data.List.Induction
import Mathlib.Data.List.TakeWhile
import Mathlib.Data.Nat.Digits.Defs
/-!
# Generated values

What an expression asks for is said by a grammar: its class falls into members from left to right,
and a member stands for a character or for a range of them.  An expression gives a value exactly if
it is of that form.  The values are then the texts of the asked length over the class, each of which
comes out for some draws.

Texts may have any length here, so a length is bounded by its 64 bits alone.
-/

namespace ApiPlatform.Generator

/-! ## Classes -/

/-- A member of a class. -/
inductive Member where
  | single (c : Char)
  | range (first last : Char)

namespace Member

/-- A range does not run backwards. -/
def Forward : Member → Prop
  | .single _ => True
  | .range first last => first ≤ last

/-- The characters that a member stands for; surrogates are none. -/
def Denotes : Member → Char → Prop
  | .single c, x => x = c
  | .range first last, x => first ≤ x ∧ x ≤ last

/-- The characters that a member adds to an alphabet. -/
def chars : Member → List Char
  | .single c => [c]
  | .range first last => charRange first last

end Member

/-- A class falls into members from left to right.  A dash that stands between two characters makes
a range of them, and every other character stands for itself. -/
inductive Reads : List Char → List Member → Prop where
  | nil : Reads [] []
  | range {first last : Char} {rest : List Char} {members : List Member}
      (hrest : Reads rest members) :
      Reads (first :: '-' :: last :: rest) (.range first last :: members)
  | single {c : Char} {rest : List Char} {members : List Member}
      (hdash : ∀ last tail, rest ≠ '-' :: last :: tail) (hrest : Reads rest members) :
      Reads (c :: rest) (.single c :: members)

variable {cs : List Char} {members : List Member} {alphabet : List Char} {length : Nat}

theorem exists_reads : ∀ cs : List Char, ∃ members, Reads cs members
  | [] => ⟨[], .nil⟩
  | first :: rest => by
      by_cases hdash : ∃ last tail, rest = '-' :: last :: tail
      · obtain ⟨last, tail, rfl⟩ := hdash
        obtain ⟨members, hmembers⟩ := exists_reads tail
        exact ⟨_, .range hmembers⟩
      · obtain ⟨members, hmembers⟩ := exists_reads rest
        exact ⟨_, .single (fun last tail heq => hdash ⟨last, tail, heq⟩) hmembers⟩

theorem mem_charRange {first last c : Char} :
    c ∈ charRange first last ↔ first ≤ c ∧ c ≤ last := by
  have hnat : first ≤ c ∧ c ≤ last ↔ first.toNat ≤ c.toNat ∧ c.toNat ≤ last.toNat := Iff.rfl
  rw [hnat, charRange, List.mem_filterMap]
  constructor
  · rintro ⟨n, hn, hc⟩
    obtain ⟨hvalid, heq⟩ := Option.dite_none_right_eq_some.1 hc
    obtain rfl := Option.some.inj heq
    have hsame : (Char.ofNatAux n hvalid).toNat = n := rfl
    rw [List.mem_range'_1] at hn
    omega
  · rintro ⟨hfirst, hlast⟩
    refine ⟨c.toNat, ?_, ?_⟩
    · rw [List.mem_range'_1]
      omega
    · have hvalid : c.toNat.isValidChar := c.valid
      rw [dif_pos hvalid]
      rfl

theorem Member.mem_chars {m : Member} {c : Char} : c ∈ m.chars ↔ m.Denotes c := by
  cases m with
  | single x => exact List.mem_singleton
  | range first last => exact mem_charRange

theorem Member.Forward.exists_denotes {m : Member} (h : m.Forward) : ∃ c, m.Denotes c := by
  cases m with
  | single c => exact ⟨c, rfl⟩
  | range first last => exact ⟨first, Nat.le_refl first.toNat, h⟩

theorem alphabet?_cons {c : Char} (hdash : ∀ last tail, cs ≠ '-' :: last :: tail) :
    alphabet? (c :: cs) = (alphabet? cs).map (c :: ·) := by
  rw [alphabet?.eq_def]
  split
  · next heq => cases heq
  · next heq =>
      cases heq
      exact absurd rfl (hdash _ _)
  · next _ heq =>
      cases heq
      cases alphabet? cs <;> rfl

theorem alphabet?_range {first last : Char} :
    alphabet? (first :: '-' :: last :: cs) =
      if first ≤ last then (alphabet? cs).map (charRange first last ++ ·) else none := by
  rw [alphabet?]
  cases alphabet? cs <;> rfl

/-- A class has an alphabet exactly if no range runs backwards. -/
theorem Reads.alphabet?_eq_some (h : Reads cs members) :
    alphabet? cs = some alphabet ↔
      (∀ m ∈ members, m.Forward) ∧ members.flatMap Member.chars = alphabet := by
  induction h generalizing alphabet with
  | nil => simp [alphabet?]
  | @range first last rest members _ ih =>
      rw [alphabet?_range, List.forall_mem_cons, List.flatMap_cons]
      by_cases hforward : first ≤ last
      · simp [hforward, ih, Member.Forward, Member.chars]
      · simp [hforward, Member.Forward]
  | @single c rest members hdash _ ih =>
      rw [alphabet?_cons hdash, List.forall_mem_cons, List.flatMap_cons]
      simp [ih, Member.Forward, Member.chars]

/-- A dash at either end of a class stands for itself. -/
example : alphabet? "-a-c-".toList = some "-abc-".toList := by decide

theorem Reads.flatMap_chars_ne_nil (h : Reads cs members) (hcs : cs ≠ [])
    (hforward : ∀ m ∈ members, m.Forward) : members.flatMap Member.chars ≠ [] := by
  cases h with
  | nil => exact absurd rfl hcs
  | range _ | single _ _ =>
      obtain ⟨c, hc⟩ := (hforward _ List.mem_cons_self).exists_denotes
      exact List.ne_nil_of_mem (List.mem_flatMap.2 ⟨_, List.mem_cons_self, Member.mem_chars.2 hc⟩)

/-! ## Expressions -/

/-- The number that digits stand for, the last one for units. -/
def decimal (digits : List Char) : Nat :=
  Nat.ofDigits 10 (digits.reverse.map fun c => c.toNat - '0'.toNat)

/-- An expression as it is written. -/
def written (cls digits : List Char) : List Char :=
  '[' :: (cls ++ ']' :: '{' :: (digits ++ ['}']))

/-- The expression `s` asks for `length` characters of the class with some members. -/
inductive Asks : String → List Member → Nat → Prop where
  | intro {s : String} {cls digits : List Char} {members : List Member}
      (hwritten : s.toList = written cls digits) (hcls : cls ≠ []) (hopen : ']' ∉ cls)
      (hreads : Reads cls members) (hforward : ∀ m ∈ members, m.Forward)
      (hdigits : digits ≠ []) (hdecimal : ∀ c ∈ digits, c.isDigit)
      (hfits : decimal digits < 2 ^ 64) : Asks s members (decimal digits)

theorem number_eq_decimal (digits : List Char) : number digits = decimal digits := by
  unfold number decimal
  induction digits using List.reverseRecOn with
  | nil => rfl
  | append_singleton digits c ih =>
      rw [List.foldl_append, List.foldl_cons, List.foldl_nil, ih, List.reverse_append,
        List.reverse_singleton, List.singleton_append, List.map_cons, Nat.ofDigits_cons]
      omega

/-- What is taken up to a closing character that is not taken itself. -/
theorem takeWhile_eq_and_drop_eq {p : Char → Bool} {closing : Char} (hclosing : ¬ p closing)
    {front : List Char} (back : List Char) :
    cs.takeWhile p = front ∧ cs.drop front.length = closing :: back ↔
      cs = front ++ closing :: back ∧ ∀ c ∈ front, p c := by
  constructor
  · rintro ⟨rfl, hdrop⟩
    have htake : cs.take (cs.takeWhile p).length = cs.takeWhile p :=
      (List.prefix_iff_eq_take.1 (List.takeWhile_prefix p)).symm
    have hsplit := List.take_append_drop (cs.takeWhile p).length cs
    rw [htake, hdrop] at hsplit
    exact ⟨hsplit.symm, fun c hc => List.mem_takeWhile_imp hc⟩
  · rintro ⟨rfl, hfront⟩
    refine ⟨?_, List.drop_left⟩
    rw [List.takeWhile_append_of_pos hfront, List.takeWhile_cons_of_neg hclosing, List.append_nil]

theorem length?_eq_some {tail : List Char} :
    length? tail = some length ↔ ∃ digits, tail = '{' :: (digits ++ ['}']) ∧ digits ≠ [] ∧
      (∀ c ∈ digits, c.isDigit) ∧ decimal digits < 2 ^ 64 ∧ decimal digits = length := by
  have hclosing : ¬ '}'.isDigit := by decide
  have hbound : lengthBound = 2 ^ 64 := rfl
  constructor
  · intro h
    unfold length? at h
    split at h
    · next rest =>
        dsimp only at h
        split at h
        · next hdrop =>
            obtain ⟨hrest, hdigits⟩ := (takeWhile_eq_and_drop_eq hclosing _).1 ⟨rfl, hdrop⟩
            rw [number_eq_decimal, hbound] at h
            simp only [Bool.or_eq_true, List.isEmpty_iff, decide_eq_true_eq,
              Option.ite_none_left_eq_some, not_or, Nat.not_le, Option.some.injEq] at h
            exact ⟨_, congrArg ('{' :: ·) hrest, h.1.1, hdigits, h.1.2, h.2⟩
        · cases h
    · cases h
  · rintro ⟨digits, rfl, hne, hdigits, hfits, rfl⟩
    obtain ⟨htake, hdrop⟩ := (takeWhile_eq_and_drop_eq hclosing []).2 ⟨rfl, hdigits⟩
    have hasks : ¬ (digits.isEmpty || lengthBound ≤ decimal digits) := by
      simpa [hne, hbound] using hfits
    rw [length?]
    simp only [htake, hdrop, number_eq_decimal, if_neg hasks]

/-- The two parts of an expression are read apart from each other. -/
theorem ofText?_eq_some {s : String} {e : Expression} :
    Expression.ofText? s = some e ↔ ∃ cls tail, s.toList = '[' :: (cls ++ ']' :: tail) ∧
      ']' ∉ cls ∧ alphabet? cls = some e.alphabet ∧ length? tail = some e.length := by
  have hclosing : ¬ decide (']' ≠ ']') := by decide
  constructor
  · intro h
    unfold Expression.ofText? at h
    split at h
    · next rest hs =>
        dsimp only at h
        split at h
        · next tail hdrop =>
            obtain ⟨hrest, hcls⟩ := (takeWhile_eq_and_drop_eq hclosing _).1 ⟨rfl, hdrop⟩
            obtain ⟨length, hlength, h⟩ := Option.bind_eq_some_iff.1 h
            obtain ⟨alphabet, halphabet, h⟩ := Option.bind_eq_some_iff.1 h
            obtain ⟨hne, heq⟩ := Option.dite_none_right_eq_some.1 h
            cases heq
            refine ⟨_, tail, hs.trans (congrArg ('[' :: ·) hrest), ?_, halphabet, hlength⟩
            exact fun hmem => hclosing (hcls _ hmem)
        · cases h
    · cases h
  · rintro ⟨cls, tail, hs, hopen, halphabet, hlength⟩
    have hcls : ∀ c ∈ cls, decide (c ≠ ']') :=
      fun c hc => decide_eq_true fun heq => hopen (heq ▸ hc)
    obtain ⟨htake, hdrop⟩ := (takeWhile_eq_and_drop_eq hclosing tail).2 ⟨rfl, hcls⟩
    rw [Expression.ofText?, hs]
    simp only [htake, hdrop, hlength, halphabet]
    exact dif_pos e.nonempty

theorem Asks.exists_ofText? {s : String} (h : Asks s members length) :
    ∃ e, Expression.ofText? s = some e ∧ e.alphabet = members.flatMap Member.chars ∧
      e.length = length := by
  cases h with
  | @intro cls digits _ hs hcls hopen hreads hforward hdigits hdecimal hfits =>
      let e : Expression := ⟨_, decimal digits, hreads.flatMap_chars_ne_nil hcls hforward⟩
      have halphabet : alphabet? cls = some e.alphabet :=
        hreads.alphabet?_eq_some.2 ⟨hforward, rfl⟩
      have hlength := length?_eq_some.2 ⟨digits, rfl, hdigits, hdecimal, hfits, rfl⟩
      exact ⟨e, ofText?_eq_some.2 ⟨cls, _, hs, hopen, halphabet, hlength⟩, rfl, rfl⟩

theorem exists_asks_of_ofText? {s : String} {e : Expression}
    (h : Expression.ofText? s = some e) : ∃ members, Asks s members e.length := by
  obtain ⟨cls, tail, hs, hopen, halphabet, hlength⟩ := ofText?_eq_some.1 h
  obtain ⟨members, hreads⟩ := exists_reads cls
  obtain ⟨hforward, -⟩ := hreads.alphabet?_eq_some.1 halphabet
  obtain ⟨digits, rfl, hdigits, hdecimal, hfits, heq⟩ := length?_eq_some.1 hlength
  have hcls : cls ≠ [] := by
    rintro rfl
    exact e.nonempty (Option.some.inj halphabet).symm
  exact ⟨members, heq ▸ .intro hs hcls hopen hreads hforward hdigits hdecimal hfits⟩

theorem ofText?_eq_none_iff {s : String} :
    Expression.ofText? s = none ↔ ¬ ∃ members length, Asks s members length := by
  constructor
  · rintro hnone ⟨members, length, hasks⟩
    obtain ⟨e, he, -, -⟩ := hasks.exists_ofText?
    cases hnone.symm.trans he
  · intro hasks
    refine Option.eq_none_iff_forall_ne_some.2 fun e he => hasks ?_
    obtain ⟨members, hmembers⟩ := exists_asks_of_ofText? he
    exact ⟨members, e.length, hmembers⟩

theorem alphabet?_ne_nil (h : alphabet? cs = some alphabet) (hcs : cs ≠ []) : alphabet ≠ [] := by
  obtain ⟨members, hreads⟩ := exists_reads cs
  obtain ⟨hforward, rfl⟩ := hreads.alphabet?_eq_some.1 h
  exact hreads.flatMap_chars_ne_nil hcs hforward

/-! ## Values -/

namespace Expression

variable {e : Expression} {text : String}

theorem pick_mem_alphabet (e : Expression) (draw : Nat) : e.pick draw ∈ e.alphabet :=
  List.get_mem _ _

theorem toList_generate (e : Expression) (d : Draws) :
    (e.generate d).toList = (List.range e.length).map fun i => e.pick (d i) :=
  String.toList_ofList

/-- The draw that picks a character. -/
theorem pick_idxOf {c : Char} (hc : c ∈ e.alphabet) : e.pick (e.alphabet.idxOf c) = c := by
  have hlt := List.idxOf_lt_length_iff.2 hc
  unfold pick
  simp only [Nat.mod_eq_of_lt hlt, List.get_eq_getElem, List.getElem_idxOf]

/-- The texts that come out for some draws are those of the length over the alphabet. -/
theorem exists_generate_eq_iff :
    (∃ d, e.generate d = text) ↔ text.length = e.length ∧ ∀ c ∈ text.toList, c ∈ e.alphabet := by
  constructor
  · rintro ⟨d, rfl⟩
    rw [← String.length_toList, toList_generate, List.length_map, List.length_range]
    refine ⟨rfl, fun c hc => ?_⟩
    obtain ⟨i, -, rfl⟩ := List.mem_map.1 hc
    exact e.pick_mem_alphabet (d i)
  · rintro ⟨hlength, hchars⟩
    refine ⟨fun i => e.alphabet.idxOf (text.toList[i]?.getD default), ?_⟩
    rw [← String.toList_inj, toList_generate, ← hlength, ← String.length_toList]
    refine List.ext_getElem (by simp) fun i _ hi => ?_
    have hpick := pick_idxOf (hchars _ (List.getElem_mem hi))
    simpa [hi] using hpick

end Expression

end ApiPlatform.Generator

namespace ApiPlatform.Parameter

open ApiPlatform.Generator (Asks Expression Member alphabet? alphabet?_ne_nil ofText?_eq_none_iff)

variable {s : String} {e : Expression}

/-- The parameter with no other value than the one that an expression gives. -/
def drawing (p : Parameter) (expression : String) : Parameter :=
  { p with value := none }.generated expression

theorem resolve_drawing_of_eq_some (h : Expression.ofText? s = some e) (p : Parameter)
    (d : Draws) : ∃ d', (p.drawing s).resolve none d = .ok (e.generate d, d') :=
  ⟨_, resolve_of_takes (.generated rfl rfl ⟨rfl, rfl⟩ h)⟩

theorem resolve_drawing_of_eq_none (h : Expression.ofText? s = none) (p : Parameter) (d : Draws) :
    (p.drawing s).resolve none d = .error (.invalidGeneratorExpression p.name s) :=
  resolve_of_lacks (.expression rfl rfl ⟨rfl, rfl⟩ h)

theorem exists_resolve_drawing_iff (h : Expression.ofText? s = some e) (p : Parameter)
    {text : String} : (∃ d d', (p.drawing s).resolve none d = .ok (text, d')) ↔
      text.length = e.length ∧ ∀ c ∈ text.toList, c ∈ e.alphabet := by
  rw [← Generator.Expression.exists_generate_eq_iff]
  refine exists_congr fun d => ?_
  obtain ⟨d₁, hresolve⟩ := resolve_drawing_of_eq_some h p d
  simp [hresolve]

end ApiPlatform.Parameter
