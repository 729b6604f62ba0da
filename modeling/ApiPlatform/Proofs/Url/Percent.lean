import ApiPlatform.Url.Percent
import Mathlib.Data.List.Infix
/-!
# What percent encoding stands for

Encoding does not touch percent signs and digits.  So what is encoded stands for what it stood for
before, and that is its own bytes only as long as no percent sign has two digits behind it
(`Percent.Unescaped`).
-/

namespace ApiPlatform.Percent

variable {set : Char → Bool} {c h l : Char} {a b : Nat} {cs rest : List Char}

/-- Whether a text starts with two digits. -/
def startsWithDigits : List Char → Bool
  | h :: l :: _ => (Digits.value? h).isSome && (Digits.value? l).isSome
  | _ => false

theorem startsWithDigits_iff :
    startsWithDigits cs ↔
      ∃ h l rest, cs = h :: l :: rest ∧ (Digits.value? h).isSome ∧ (Digits.value? l).isSome := by
  match cs with
  | [] => simp [startsWithDigits]
  | [h] => simp [startsWithDigits]
  | h :: l :: rest => simp [startsWithDigits]

/-- No percent sign has two digits behind it. -/
def Unescaped (cs : List Char) : Prop :=
  ∀ h l, (Digits.value? h).isSome → (Digits.value? l).isSome → ¬ ['%', h, l] <:+: cs

/-! ## Reading character by character -/

theorem decode_escape (ha : Digits.value? h = some a) (hb : Digits.value? l = some b) :
    decode ('%' :: h :: l :: rest) = UInt8.ofNat (a * 16 + b) :: decode rest := by
  rw [decode, ha, hb]

theorem decode_cons (hc : c = '%' → startsWithDigits rest = false) :
    decode (c :: rest) = String.utf8EncodeChar c ++ decode rest := by
  by_cases hpercent : c = '%'
  · subst hpercent
    have hdigits := hc rfl
    match rest with
    | [] => rfl
    | [h] => rfl
    | h :: l :: rest =>
        rw [decode]
        cases ha : Digits.value? h with
        | none => rfl
        | some a =>
            cases hb : Digits.value? l with
            | none => rfl
            | some b => simp [startsWithDigits, ha, hb] at hdigits
  · rw [decode]
    intro h l rest' heq
    exact absurd heq hpercent

/-- Texts are read from the left: two digits behind a percent sign at once, everything else one by
one. -/
theorem decode_induction {P : List Char → Prop} (nil : P [])
    (escape : ∀ h l a b rest, Digits.value? h = some a → Digits.value? l = some b → P rest →
      P ('%' :: h :: l :: rest))
    (char : ∀ c rest, (c = '%' → startsWithDigits rest = false) → P rest → P (c :: rest))
    (cs : List Char) : P cs := by
  induction hn : cs.length using Nat.strong_induction_on generalizing cs with
  | _ n ih =>
    subst hn
    match cs with
    | [] => exact nil
    | c :: rest =>
        by_cases hescape : c = '%' ∧ startsWithDigits rest
        · obtain ⟨rfl, hdigits⟩ := hescape
          match rest with
          | h :: l :: rest =>
              simp only [startsWithDigits, Bool.and_eq_true] at hdigits
              obtain ⟨a, ha⟩ := Option.isSome_iff_exists.1 hdigits.1
              obtain ⟨b, hb⟩ := Option.isSome_iff_exists.1 hdigits.2
              exact escape h l a b rest ha hb (ih _ (by simp; omega) rest rfl)
        · exact char c rest (by simpa using hescape) (ih _ (by simp) rest rfl)

/-! ## Encoding -/

theorem value?_digit : ∀ n < 16, Digits.value? (digit n) = some n := by decide

theorem decode_encodeByte (b : UInt8) (cs : List Char) :
    decode (encodeByte b ++ cs) = b :: decode cs := by
  have hbyte := b.toNat_lt
  have hhigh := value?_digit (b.toNat / 16) (by omega)
  have hlow := value?_digit (b.toNat % 16) (by omega)
  refine (decode_escape hhigh hlow).trans ?_
  rw [Nat.div_add_mod', UInt8.ofNat_toNat]
  rfl

theorem decode_encodeBytes (bs : Bytes) (cs : List Char) :
    decode (bs.flatMap encodeByte ++ cs) = bs ++ decode cs := by
  induction bs with
  | nil => rfl
  | cons b bs ih =>
      rw [List.flatMap_cons, List.append_assoc, decode_encodeByte, ih, List.cons_append]

theorem encode_cons_of_not (hc : set c = false) :
    encode set (c :: rest) = c :: encode set rest := by
  simp [encode, hc]

theorem encode_cons_of (hc : set c) :
    encode set (c :: rest) =
      (String.utf8EncodeChar c).flatMap encodeByte ++ encode set rest := by
  simp [encode, hc]

theorem exists_encode_cons (hc : set c) (rest : List Char) :
    ∃ t, encode set (c :: rest) = '%' :: t := by
  rw [encode_cons_of hc]
  cases hbytes : String.utf8EncodeChar c with
  | nil =>
      have hlength := String.length_utf8EncodeChar c
      rw [hbytes] at hlength
      exact absurd hlength c.utf8Size_pos.ne
  | cons b bs => exact ⟨_, rfl⟩

theorem startsWithDigits_cons_of_none (hc : Digits.value? c = none) :
    startsWithDigits (c :: rest) = false := by
  cases rest with
  | nil => rfl
  | cons l rest => simp [startsWithDigits, hc]

section Encoding

variable (hdigits : ∀ c, (Digits.value? c).isSome → set c = false)
include hdigits

/-- An encoded text starts with two digits if the text does. -/
theorem startsWithDigits_encode (cs : List Char) :
    startsWithDigits (encode set cs) = startsWithDigits cs := by
  have hdropped (c) (hc : set c = true) : Digits.value? c = none := by
    cases hvalue : Digits.value? c with
    | none => rfl
    | some n => simpa [hc] using hdigits c (by simp [hvalue])
  match cs with
  | [] => rfl
  | h :: rest =>
      cases hh : set h with
      | true =>
          obtain ⟨t, ht⟩ := exists_encode_cons hh rest
          rw [ht, startsWithDigits_cons_of_none (by decide),
            startsWithDigits_cons_of_none (hdropped h hh)]
      | false =>
          rw [encode_cons_of_not hh]
          match rest with
          | [] => rfl
          | l :: rest =>
              cases hl : set l with
              | true =>
                  obtain ⟨t, ht⟩ := exists_encode_cons hl rest
                  have hpercent : Digits.value? '%' = none := by decide
                  simp [ht, startsWithDigits, hpercent, hdropped l hl]
              | false =>
                  rw [encode_cons_of_not hl]
                  rfl

theorem decode_encode (hpercent : set '%' = false) (cs : List Char) :
    decode (encode set cs) = decode cs := by
  induction cs using decode_induction with
  | nil => rfl
  | escape h l a b rest ha hb ih =>
      have hh : set h = false := hdigits h (by simp [ha])
      have hl : set l = false := hdigits l (by simp [hb])
      rw [encode_cons_of_not hpercent, encode_cons_of_not hh, encode_cons_of_not hl,
        decode_escape ha hb, decode_escape ha hb, ih]
  | char c rest hc ih =>
      rw [decode_cons hc]
      cases hset : set c with
      | true => rw [encode_cons_of hset, decode_encodeBytes, ih]
      | false =>
          rw [encode_cons_of_not hset, decode_cons, ih]
          intro heq
          rw [startsWithDigits_encode hdigits, hc heq]

end Encoding

/-- All digits are ASCII, so what is said of digits can be checked one by one. -/
theorem forall_digit {P : Char → Prop}
    (h : ∀ n < 128, (Digits.value? (Char.ofNat n)).isSome → P (Char.ofNat n)) :
    ∀ c, (Digits.value? c).isSome → P c := by
  intro c hc
  have hbelow (d : Char) (hd : c ≤ d) : c.toNat ≤ d.toNat := hd
  have hascii : c.toNat < 128 := by
    unfold Digits.value? at hc
    split_ifs at hc with hdecimal hlower hupper
    · exact (hbelow _ hdecimal.2).trans_lt (by decide)
    · exact (hbelow _ hlower.2).trans_lt (by decide)
    · exact (hbelow _ hupper.2).trans_lt (by decide)
    · cases hc
  have hchar := h c.toNat hascii
  rw [Char.ofNat_toNat] at hchar
  exact hchar hc

/-- User information stands for what it was made from. -/
theorem decode_encode_inUserInfo (cs : List Char) :
    decode (encode inUserInfo cs) = decode cs :=
  decode_encode (forall_digit (by decide)) (by decide) cs

/-! ## Texts that stand for themselves -/

theorem unescaped_nil : Unescaped [] := fun h l _ _ hinfix => by simpa using hinfix.length_le

theorem unescaped_cons :
    Unescaped (c :: rest) ↔ (c = '%' → startsWithDigits rest = false) ∧ Unescaped rest := by
  constructor
  · refine fun hcs => ⟨fun heq => ?_, fun h l hh hl hinfix => ?_⟩
    · rw [Bool.eq_false_iff, ne_eq, startsWithDigits_iff]
      rintro ⟨h, l, rest', rfl, hh, hl⟩
      exact hcs h l hh hl ⟨[], rest', by rw [heq]; rfl⟩
    · exact hcs h l hh hl (List.infix_cons hinfix)
  · rintro ⟨hc, hrest⟩ h l hh hl hinfix
    rcases List.infix_cons_iff.1 hinfix with hprefix | hinfix
    · obtain ⟨rfl, t, rfl⟩ := List.cons_prefix_cons.1 hprefix
      have hdigits : startsWithDigits (h :: l :: t) := startsWithDigits_iff.2 ⟨h, l, t, rfl, hh, hl⟩
      exact Bool.false_ne_true ((hc rfl).symm.trans hdigits)
    · exact hrest h l hh hl hinfix

theorem length_decode_le (cs : List Char) :
    (decode cs).length ≤ (cs.flatMap String.utf8EncodeChar).length := by
  induction cs using decode_induction with
  | nil => exact le_rfl
  | escape h l a b rest ha hb ih =>
      have hpercent : (String.utf8EncodeChar '%').length = 1 := rfl
      simp only [decode_escape ha hb, List.flatMap_cons, List.length_append, List.length_cons]
      omega
  | char c rest hc ih =>
      simp only [decode_cons hc, List.flatMap_cons, List.length_append]
      omega

/-- A text stands for its own bytes if nothing in it is escaped, and only then. -/
theorem decode_eq_iff (cs : List Char) :
    decode cs = cs.flatMap String.utf8EncodeChar ↔ Unescaped cs := by
  induction cs using decode_induction with
  | nil => simpa [decode] using unescaped_nil
  | escape h l a b rest ha hb _ =>
      refine iff_of_false (fun heq => ?_) (fun hcs => ?_)
      · -- Three characters are read as one byte.
        have hle := length_decode_le rest
        have hlength := congrArg List.length heq
        have hh := h.utf8Size_pos
        have hpercent : (String.utf8EncodeChar '%').length = 1 := rfl
        simp only [decode_escape ha hb, List.flatMap_cons, List.length_append, List.length_cons,
          String.length_utf8EncodeChar h] at hlength
        omega
      · have hdigits := (unescaped_cons.1 hcs).1 rfl
        simp [startsWithDigits, ha, hb] at hdigits
  | char c rest hc ih =>
      rw [decode_cons hc, List.flatMap_cons, List.append_right_inj, ih, unescaped_cons]
      exact (and_iff_right hc).symm

/-! ## A colon in between -/

theorem startsWithDigits_append_cons (x y : List Char) (hvalue : Digits.value? c = none) :
    startsWithDigits (x ++ c :: y) = startsWithDigits x := by
  match x with
  | [] => exact startsWithDigits_cons_of_none hvalue
  | [h] => simp [startsWithDigits, hvalue]
  | h :: l :: x => rfl

theorem decode_append_colon (x y : List Char) :
    decode (x ++ ':' :: y) = decode x ++ 0x3A :: decode y := by
  induction x using decode_induction with
  | nil => exact decode_cons fun heq => absurd heq (by decide)
  | escape h l a b rest ha hb ih =>
      rw [decode_escape ha hb, List.cons_append, List.cons_append, List.cons_append,
        decode_escape ha hb, ih, List.cons_append]
  | char c rest hc ih =>
      rw [decode_cons hc, List.cons_append, decode_cons, ih, List.append_assoc]
      rwa [startsWithDigits_append_cons _ _ (by decide)]

theorem count_colon_of_digit :
    ∀ c, (Digits.value? c).isSome → (String.utf8EncodeChar c).count 0x3A = 0 :=
  forall_digit (by decide)

/-- No colon gets lost. -/
theorem count_colon_le (cs : List Char) :
    (cs.flatMap String.utf8EncodeChar).count 0x3A ≤ (decode cs).count 0x3A := by
  induction cs using decode_induction with
  | nil => exact le_rfl
  | escape h l a b rest ha hb ih =>
      have hpercent : (String.utf8EncodeChar '%').count 0x3A = 0 := rfl
      have hh := count_colon_of_digit h (by simp [ha])
      have hl := count_colon_of_digit l (by simp [hb])
      have hbyte := List.count_le_count_cons (a := 0x3A) (b := UInt8.ofNat (a * 16 + b))
        (l := decode rest)
      simp only [decode_escape ha hb, List.flatMap_cons, List.count_append]
      omega
  | char c rest hc ih =>
      simp only [decode_cons hc, List.flatMap_cons, List.count_append]
      omega

/-- With a colon behind it, what a text stands for is more than the text. -/
theorem decode_append_colon_ne (cs : List Char) (bs : Bytes) :
    decode cs ++ 0x3A :: bs ≠ cs.flatMap String.utf8EncodeChar := by
  intro heq
  have hcount := congrArg (List.count 0x3A) heq
  have hle := count_colon_le cs
  rw [List.count_append, List.count_cons_self] at hcount
  omega

end ApiPlatform.Percent
