import ApiPlatform.Decimal.Shortest
/-!
# Doubles as text

How doubles are written: positionally with at least one place if the point lies from four zeros
before the digits up to sixteen places behind their start, and else with an exponent.
-/

namespace ApiPlatform.Decimal

/-- The most places before the point that are written out. -/
def positionalLimit : Int := 16

/-- The most zeros, the one before the point included, that precede the digits. -/
def leadingZeroLimit : Int := 5

def Scientific.text (d : Scientific) : String :=
  let digits := Nat.toDigits 10 d.digits
  let point := (digits.length : Int) + d.exponent
  if 0 ≤ d.exponent && point ≤ positionalLimit then
    String.ofList (digits ++ List.replicate d.exponent.toNat '0') ++ ".0"
  else if 0 < point && point ≤ positionalLimit then
    String.ofList (digits.take point.toNat) ++ "." ++ String.ofList (digits.drop point.toNat)
  else if -leadingZeroLimit < point && point ≤ 0 then
    "0." ++ String.ofList (List.replicate (-point).toNat '0' ++ digits)
  else
    let places := digits.drop 1
    String.ofList (digits.take 1) ++
      (if places.isEmpty then "" else "." ++ String.ofList places) ++ "e" ++ toString (point - 1)

/-- The text of the double with the given bits, if it is finite. -/
def ofBits? (bits : UInt64) : Option String :=
  (Binary.ofBits? bits).map fun b =>
    let sign := if bits.toNat < Nat.pow 2 63 then "" else "-"
    sign ++ if b.mantissa = 0 then "0.0" else (shortest b).text

end ApiPlatform.Decimal
