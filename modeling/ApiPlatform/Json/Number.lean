import ApiPlatform.Json.Basic
/-!
# JSON numbers

Numbers without point and exponent are whole, if they fit in 64 bits with or without sign; all
others are doubles.  A double is computed from the leading digits that fit in 64 bits by one
multiplication or division by a power of ten, so it may be off in its last place.
-/

namespace ApiPlatform.Json

/-- A number taken apart: `digits * 10 ^ exponent`. -/
structure NumberParts where
  negative : Bool
  digits : Nat
  exponent : Int
  /-- Whether it is written with a point, an exponent or too many digits for a whole number. -/
  isDouble : Bool

/-- Appends digits as long as the number fits in 64 bits, and gives the number and how many digits
are left. -/
def appendDigits (n : Nat) : List Char → Nat × Nat
  | [] => (n, 0)
  | d :: rest =>
    let m := n * 10 + (d.toNat - '0'.toNat)
    if m < Nat.pow 2 64 then appendDigits m rest else (n, rest.length + 1)

/-- Ten to a power, as the nearest double. -/
def powerOfTen (n : Nat) : Float := Float.ofScientific 1 false n

/-- The largest power of ten that is a double. -/
def largestPower : Nat := 308

/-- A double times a power of ten; `none` if that is too large.  `fuel` bounds the number of
divisions by the largest power. -/
def timesPower : Nat → Float → Int → Option Float
  | 0, _, _ => some 0
  | fuel + 1, f, e =>
    if e.natAbs ≤ largestPower then
      if 0 ≤ e then
        let product := f * powerOfTen e.toNat
        if product.isInf then none else some product
      else some (f / powerOfTen e.natAbs)
    else if f == 0 then some f
    else if 0 ≤ e then none
    else timesPower fuel (f / powerOfTen largestPower) (e + largestPower)

/-- More divisions by the largest power than any double stays above zero for. -/
def divisionLimit : Nat := 4

def NumberParts.toJson? (p : NumberParts) : Option Json :=
  let double := fun f : Float => Json.double (if p.negative then -f else f).toBits
  if p.isDouble then
    (timesPower divisionLimit (UInt64.ofNat p.digits).toFloat p.exponent).map double
  else if p.negative then
    if p.digits = 0 || Nat.pow 2 63 < p.digits then some (double (UInt64.ofNat p.digits).toFloat)
    else some (.int (-(p.digits : Int)))
  else some (.int p.digits)

/-- Takes the digits at the start of a text. -/
def spanDigits (cs : List Char) : List Char × List Char :=
  let digits := cs.takeWhile Char.isDigit
  (digits, cs.drop digits.length)

/-- The number with the digits behind its point. -/
def NumberParts.withPlaces (p : NumberParts) (places : List Char) : NumberParts :=
  let (digits, dropped) := appendDigits p.digits places
  { p with digits, exponent := p.exponent - (places.length - dropped : Nat), isDouble := true }

/-- Reads a number at the start of a text, and gives what follows. -/
def number? (cs : List Char) : Option (Json × List Char) := do
  let (negative, cs) := match cs with
    | '-' :: rest => (true, rest)
    | cs => (false, cs)
  let (whole, cs) := spanDigits cs
  if whole.isEmpty || (whole.head? = some '0' && 1 < whole.length) then none
  let (digits, left) := appendDigits 0 whole
  let p : NumberParts := { negative, digits, exponent := left, isDouble := 0 < left }
  let (p, cs) ← match cs with
    | '.' :: rest =>
      let (places, rest) := spanDigits rest
      if places.isEmpty then none else some (p.withPlaces places, rest)
    | cs => some (p, cs)
  match cs with
  | e :: rest =>
    if e = 'e' || e = 'E' then
      let (down, rest) := match rest with
        | '+' :: rest => (false, rest)
        | '-' :: rest => (true, rest)
        | rest => (false, rest)
      let (power, rest) := spanDigits rest
      if power.isEmpty then none
      let power : Int := power.foldl (fun n c => n * 10 + (c.toNat - '0'.toNat)) 0
      let exponent := if down then p.exponent - power else p.exponent + power
      let value ← ({ p with exponent, isDouble := true } : NumberParts).toJson?
      some (value, rest)
    else (p.toJson?).map (·, e :: rest)
  | [] => (p.toJson?).map (·, [])

end ApiPlatform.Json
