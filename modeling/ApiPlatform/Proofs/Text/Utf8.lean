import ApiPlatform.Text.Bytes
import Mathlib.Tactic.SplitIfs
/-!
# Reading UTF-8 that was written

`Bytes.toTextLossy` replaces whatever is no character, but it gives every text back from its own
bytes (`Bytes.toTextLossy_ofText`): each of the four lengths of an encoded character is read as
that character, and reading then resumes behind it.
-/

namespace ApiPlatform.Bytes

private theorem toNat_ofNat {n : Nat} (h : n < 256) : (UInt8.ofNat n).toNat = n :=
  UInt8.toNat_ofNat_of_lt' (by simpa [UInt8.size] using h)

theorem continuation?_ofNat {x : Nat} (h : x < 0x40) :
    continuation? (UInt8.ofNat (x + 0x80)) = some x := by
  simp only [continuation?, UInt8.le_iff_toNat_le, toNat_ofNat (show x + 0x80 < 256 by omega)]
  rw [if_pos (by simp; omega)]
  simp

/-- The second byte is in bounds as soon as the first two together make no overlong form, no
surrogate and no code point past the last. -/
theorem secondByteRange_ofNat {n x : Nat} (hn : n < 256) (hx : x < 0x40)
    (overlong₃ : n = 0xE0 → 0x20 ≤ x) (surrogate : n = 0xED → x < 0x20)
    (overlong₄ : n = 0xF0 → 0x10 ≤ x) (last : n = 0xF4 → x < 0x10) :
    (secondByteRange (UInt8.ofNat n)).1 ≤ UInt8.ofNat (x + 0x80) ∧
      UInt8.ofNat (x + 0x80) ≤ (secondByteRange (UInt8.ofNat n)).2 := by
  simp only [UInt8.le_iff_toNat_le, toNat_ofNat (show x + 0x80 < 256 by omega), secondByteRange,
    ← UInt8.toNat_inj, toNat_ofNat hn]
  split_ifs <;> simp_all <;> omega

theorem lead_of_le_7f {v : Nat} (h : v ≤ 0x7f) (rest : Bytes) :
    lead (UInt8.ofNat v) rest = .char (Char.ofNat v) 1 := by
  have hb := toNat_ofNat (show v < 256 by omega)
  simp only [lead, UInt8.lt_iff_toNat_lt, hb]
  rw [if_pos (by simp; omega)]

theorem lead_of_le_7ff {v : Nat} (h₁ : 0x7f < v) (h₂ : v ≤ 0x7ff) (rest : Bytes) :
    lead (UInt8.ofNat (v / 64 % 0x20 + 0xc0)) (UInt8.ofNat (v % 0x40 + 0x80) :: rest) =
      .char (Char.ofNat v) 2 := by
  have hb := toNat_ofNat (show v / 64 % 0x20 + 0xc0 < 256 by omega)
  simp only [lead, UInt8.lt_iff_toNat_lt, UInt8.le_iff_toNat_le, hb]
  rw [if_neg (by simp), if_pos (by simp; omega), continuation?_ofNat (by omega)]
  simp only [Lead.char.injEq, and_true]
  congr 1
  omega

theorem lead_of_le_ffff {v : Nat} (h₁ : 0x7ff < v) (h₂ : v ≤ 0xffff)
    (valid : v < 0xd800 ∨ 0xdfff < v) (rest : Bytes) :
    lead (UInt8.ofNat (v / 4096 % 0x10 + 0xe0))
        (UInt8.ofNat (v / 64 % 0x40 + 0x80) :: UInt8.ofNat (v % 0x40 + 0x80) :: rest) =
      .char (Char.ofNat v) 3 := by
  have hb := toNat_ofNat (show v / 4096 % 0x10 + 0xe0 < 256 by omega)
  have hb₁ := toNat_ofNat (show v / 64 % 0x40 + 0x80 < 256 by omega)
  have hrange := secondByteRange_ofNat (n := v / 4096 % 0x10 + 0xe0) (x := v / 64 % 0x40)
    (by omega) (by omega) (by omega) (by omega) (by omega) (by omega)
  simp only [lead, if_pos hrange]
  simp only [UInt8.lt_iff_toNat_lt, UInt8.le_iff_toNat_le, hb, hb₁]
  rw [if_neg (by simp), if_neg (by simp), if_pos (by simp; omega),
    continuation?_ofNat (by omega)]
  simp only [Lead.char.injEq, and_true]
  congr 1
  omega

theorem lead_of_le_10ffff {v : Nat} (h₁ : 0xffff < v) (h₂ : v ≤ 0x10ffff) (rest : Bytes) :
    lead (UInt8.ofNat (v / 262144 % 0x08 + 0xf0))
        (UInt8.ofNat (v / 4096 % 0x40 + 0x80) :: UInt8.ofNat (v / 64 % 0x40 + 0x80) ::
          UInt8.ofNat (v % 0x40 + 0x80) :: rest) =
      .char (Char.ofNat v) 4 := by
  have hb := toNat_ofNat (show v / 262144 % 0x08 + 0xf0 < 256 by omega)
  have hb₁ := toNat_ofNat (show v / 4096 % 0x40 + 0x80 < 256 by omega)
  have hrange := secondByteRange_ofNat (n := v / 262144 % 0x08 + 0xf0) (x := v / 4096 % 0x40)
    (by omega) (by omega) (by omega) (by omega) (by omega) (by omega)
  simp only [lead, if_pos hrange]
  simp only [UInt8.lt_iff_toNat_lt, UInt8.le_iff_toNat_le, hb, hb₁]
  rw [if_neg (by simp), if_neg (by simp), if_neg (by simp), if_pos (by simp; omega),
    continuation?_ofNat (by omega), continuation?_ofNat (by omega)]
  simp only [Lead.char.injEq, and_true]
  congr 1
  omega

/-- Bytes that belong to the character before are skipped. -/
theorem lossyChars_append (bs rest : Bytes) :
    lossyChars bs.length (bs ++ rest) = lossyChars 0 rest := by
  induction bs with
  | nil => rfl
  | cons b bs ih => simp [lossyChars, ih]

theorem lossyChars_cons_of_lead (bs : Bytes) {b : UInt8} {rest : Bytes} {c : Char}
    (h : lead b (bs ++ rest) = .char c (bs.length + 1)) :
    lossyChars 0 (b :: (bs ++ rest)) = c :: lossyChars 0 rest := by
  rw [lossyChars, h]
  simp [lossyChars_append]

theorem lossyChars_utf8EncodeChar (c : Char) (rest : Bytes) :
    lossyChars 0 (String.utf8EncodeChar c ++ rest) = c :: lossyChars 0 rest := by
  have hc : Char.ofNat c.val.toNat = c := Char.ofNat_toNat c
  have hvalid : c.val.toNat < 0xd800 ∨ 0xdfff < c.val.toNat ∧ c.val.toNat < 0x110000 := c.valid
  unfold String.utf8EncodeChar
  dsimp only
  -- The four branches are the four lengths of an encoded character.
  split_ifs with h₁ h₂ h₃
  · have h := lead_of_le_7f h₁ rest
    rw [hc] at h
    exact lossyChars_cons_of_lead [] h
  · have h := lead_of_le_7ff (v := c.val.toNat) (by omega) h₂ rest
    rw [hc] at h
    exact lossyChars_cons_of_lead [_] h
  · have h := lead_of_le_ffff (v := c.val.toNat) (by omega) h₃ (by omega) rest
    rw [hc] at h
    exact lossyChars_cons_of_lead [_, _] h
  · have h := lead_of_le_10ffff (v := c.val.toNat) (by omega) (by omega) rest
    rw [hc] at h
    exact lossyChars_cons_of_lead [_, _, _] h

/-- A text is read back from its own bytes. -/
@[simp] theorem toTextLossy_ofText (s : String) : toTextLossy (ofText s) = s := by
  have h : ∀ cs : List Char, lossyChars 0 (cs.flatMap String.utf8EncodeChar) = cs := by
    intro cs
    induction cs with
    | nil => rfl
    | cons c cs ih => rw [List.flatMap_cons, lossyChars_utf8EncodeChar, ih]
  rw [toTextLossy, ofText, h, String.ofList_toList]

end ApiPlatform.Bytes
