/-!
# Text and bytes

UTF-8 in both directions.  Writing is exact; reading never fails, because every longest part that
starts like a character but is none is read as one replacement character.
-/

namespace ApiPlatform

/-- A sequence of bytes. -/
abbrev Bytes := List UInt8

namespace Bytes

/-- The UTF-8 form of a text. -/
def ofText (s : String) : Bytes := s.toList.flatMap String.utf8EncodeChar

/-- What a reader sees at the start of some bytes: a character and its length, or the length of
the part that stands for no character. -/
inductive Lead where
  | char (c : Char) (length : Nat)
  | invalid (length : Nat)

/-- The continuation bits of a byte, if it is one that may follow inside a character. -/
def continuation? (b : UInt8) : Option Nat :=
  if 0x80 ≤ b ∧ b ≤ 0xBF then some (b.toNat - 0x80) else none

/-- The bounds that the second byte has to meet after a given first byte; they exclude overlong
forms, surrogates and code points past the last. -/
def secondByteRange (b : UInt8) : UInt8 × UInt8 :=
  if b = 0xE0 then (0xA0, 0xBF)
  else if b = 0xED then (0x80, 0x9F)
  else if b = 0xF0 then (0x90, 0xBF)
  else if b = 0xF4 then (0x80, 0x8F)
  else (0x80, 0xBF)

/-- Reads one character at the start of `b :: rest`. -/
def lead (b : UInt8) (rest : Bytes) : Lead :=
  if b < 0x80 then .char (Char.ofNat b.toNat) 1
  else if 0xC2 ≤ b ∧ b ≤ 0xDF then
    match rest with
    | b₁ :: _ =>
      match continuation? b₁ with
      | some x₁ => .char (Char.ofNat ((b.toNat - 0xC0) * 0x40 + x₁)) 2
      | none => .invalid 1
    | [] => .invalid 1
  else if 0xE0 ≤ b ∧ b ≤ 0xEF then
    match rest with
    | b₁ :: rest₁ =>
      if (secondByteRange b).1 ≤ b₁ ∧ b₁ ≤ (secondByteRange b).2 then
        match rest₁ with
        | b₂ :: _ =>
          match continuation? b₂ with
          | some x₂ =>
            .char (Char.ofNat ((b.toNat - 0xE0) * 0x1000 + (b₁.toNat - 0x80) * 0x40 + x₂)) 3
          | none => .invalid 2
        | [] => .invalid 2
      else .invalid 1
    | [] => .invalid 1
  else if 0xF0 ≤ b ∧ b ≤ 0xF4 then
    match rest with
    | b₁ :: rest₁ =>
      if (secondByteRange b).1 ≤ b₁ ∧ b₁ ≤ (secondByteRange b).2 then
        match rest₁ with
        | b₂ :: rest₂ =>
          match continuation? b₂ with
          | some x₂ =>
            match rest₂ with
            | b₃ :: _ =>
              match continuation? b₃ with
              | some x₃ =>
                .char (Char.ofNat ((b.toNat - 0xF0) * 0x40000 + (b₁.toNat - 0x80) * 0x1000 +
                  x₂ * 0x40 + x₃)) 4
              | none => .invalid 3
            | [] => .invalid 3
          | none => .invalid 2
        | [] => .invalid 2
      else .invalid 1
    | [] => .invalid 1
  else .invalid 1

/-- The characters of some bytes; `skip` counts bytes that belong to the character before. -/
def lossyChars : Nat → Bytes → List Char
  | _, [] => []
  | skip + 1, _ :: rest => lossyChars skip rest
  | 0, b :: rest =>
    match lead b rest with
    | .char c length => c :: lossyChars (length - 1) rest
    | .invalid length => '\ufffd' :: lossyChars (length - 1) rest

/-- The characters of some bytes, if they are UTF-8 throughout. -/
def chars? : Nat → Bytes → Option (List Char)
  | _, [] => some []
  | skip + 1, _ :: rest => chars? skip rest
  | 0, b :: rest =>
    match lead b rest with
    | .char c length => (chars? (length - 1) rest).map (c :: ·)
    | .invalid _ => none

/-- The text of some bytes, with U+FFFD for every part that is not UTF-8. -/
def toTextLossy (bs : Bytes) : String := String.ofList (lossyChars 0 bs)

end Bytes

end ApiPlatform
