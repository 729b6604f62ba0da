import ApiPlatform.Text.Bytes
/-!
# Texts by their bytes

A character below 128 is one byte, and no byte of another character is below 128.  So the characters
of an ASCII text can be read off its bytes, which is quicker than decoding them.
-/

namespace ApiPlatform.Text

variable {s : String} {c : Char} {cs : List Char}

/-- The bytes of a text as they are stored. -/
def bytes (s : String) : Bytes := s.toByteArray.data.toList

theorem bytes_eq (s : String) : bytes s = Bytes.ofText s := by
  rw [bytes, ← String.utf8Encode_toList, List.utf8Encode, List.data_toByteArray]
  rfl

/-- The characters of a text that is ASCII throughout. -/
def ascii? (s : String) : Option (List Char) :=
  if (bytes s).all (·.toNat < 128) then some ((bytes s).map fun b => Char.ofNat b.toNat) else none

theorem utf8EncodeChar_of_lt (hc : c.toNat < 128) :
    String.utf8EncodeChar c = [UInt8.ofNat c.toNat] :=
  if_pos (Nat.le_of_lt_succ hc)

theorem toNat_lt_of_utf8EncodeChar (hbytes : ∀ b ∈ String.utf8EncodeChar c, b.toNat < 128) :
    c.toNat < 128 := by
  have hc : c.val.toNat = c.toNat := rfl
  unfold String.utf8EncodeChar at hbytes
  dsimp only at hbytes
  -- The first byte of a longer form is at least 192.
  split at hbytes
  · omega
  · split at hbytes
    · have hlead := hbytes _ List.mem_cons_self
      simp only [UInt8.toNat_ofNat'] at hlead
      omega
    · split at hbytes
      · have hlead := hbytes _ List.mem_cons_self
        simp only [UInt8.toNat_ofNat'] at hlead
        omega
      · have hlead := hbytes _ List.mem_cons_self
        simp only [UInt8.toNat_ofNat'] at hlead
        omega

theorem mem_bytes_of_mem (hc : c ∈ s.toList) (hascii : c.toNat < 128) :
    UInt8.ofNat c.toNat ∈ bytes s := by
  rw [bytes_eq]
  refine List.mem_flatMap.2 ⟨c, hc, ?_⟩
  rw [utf8EncodeChar_of_lt hascii]
  exact List.mem_singleton_self _

theorem toList_of_ascii? (h : ascii? s = some cs) : s.toList = cs := by
  unfold ascii? at h
  split at h
  · next hall =>
      obtain rfl := Option.some.inj h
      have hsmall : ∀ c ∈ s.toList, c.toNat < 128 := by
        intro c hc
        refine toNat_lt_of_utf8EncodeChar fun b hb => ?_
        have hmem : b ∈ bytes s := bytes_eq s ▸ List.mem_flatMap.2 ⟨c, hc, hb⟩
        simpa using List.all_eq_true.1 hall b hmem
      rw [bytes_eq, Bytes.ofText]
      generalize s.toList = cs at hsmall ⊢
      induction cs with
      | nil => rfl
      | cons c cs ih =>
          obtain ⟨hc, hrest⟩ := List.forall_mem_cons.1 hsmall
          have hback : Char.ofNat (UInt8.ofNat c.toNat).toNat = c := by
            rw [UInt8.toNat_ofNat_of_lt' (Nat.lt_trans hc (by decide)), Char.ofNat_toNat]
          rw [List.flatMap_cons, utf8EncodeChar_of_lt hc, List.map_append, ← ih hrest,
            List.map_singleton, hback]
          rfl
  · cases h

end ApiPlatform.Text
