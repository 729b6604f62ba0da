/-!
# Shortest decimals

The shortest decimal that reads back as a double, and of several the one nearest to it.  A double
stands for all reals that round to it.  Decimal grids are tried from coarse to fine: if a point
of a grid lies in that interval, so does one of the two neighbours of the double on the grid.
-/

namespace ApiPlatform.Decimal

/-- The number `digits * 10 ^ exponent`. -/
structure Scientific where
  digits : Nat
  exponent : Int
  deriving DecidableEq, Repr

/-- The positive number `mantissa * 2 ^ exponent`. -/
structure Binary where
  mantissa : Nat
  exponent : Int
  deriving DecidableEq, Repr

/-- The size of the double with the given bits, if it is finite. -/
def Binary.ofBits? (bits : UInt64) : Option Binary :=
  let fraction : Nat := bits.toNat % Nat.pow 2 52
  let biased : Nat := bits.toNat / Nat.pow 2 52 % Nat.pow 2 11
  if biased = 2047 then none
  else if biased = 0 then some { mantissa := fraction, exponent := -1074 }
  else some { mantissa := Nat.pow 2 52 + fraction, exponent := (biased : Int) - 1075 }

/-- A fraction of two numbers. -/
structure Ratio where
  num : Nat
  den : Nat

def Ratio.scale2 (n : Nat) (e : Int) : Ratio :=
  if 0 ≤ e then { num := n * Nat.pow 2 e.toNat, den := 1 }
  else { num := n, den := Nat.pow 2 (-e).toNat }

def Ratio.scale10 (r : Ratio) (e : Int) : Ratio :=
  if 0 ≤ e then { r with num := r.num * Nat.pow 10 e.toNat }
  else { r with den := r.den * Nat.pow 10 (-e).toNat }

/-- The reals that round to a double, as fractions of a common denominator. -/
structure Interval where
  lower : Nat
  value : Nat
  upper : Nat
  den : Nat
  /-- Whether the ends belong to it. -/
  closed : Bool

/-- The interval of a double.  Below a power of two the next double is only half as far. -/
def Binary.interval (b : Binary) : Interval :=
  let below := if b.mantissa = Nat.pow 2 52 && -1074 < b.exponent then 1 else 2
  let r := Ratio.scale2 (4 * b.mantissa) (b.exponent - 2)
  let unit := r.num / (4 * b.mantissa)
  { lower := r.num - below * unit
    value := r.num
    upper := r.num + 2 * unit
    den := r.den
    closed := b.mantissa % 2 = 0 }

/-- Whether a point of a grid with the given step lies in the interval. -/
def Interval.contains (i : Interval) (step : Ratio) (n : Nat) : Bool :=
  let point := n * step.num * i.den
  let low := i.lower * step.den
  let high := i.upper * step.den
  if i.closed then low ≤ point && point ≤ high else low < point && point < high

/-- The point of the grid `10 ^ k` that reads back; the nearer one of two. -/
def Interval.onGrid? (i : Interval) (k : Int) : Option Nat :=
  let step := Ratio.scale10 { num := 1, den := 1 } k
  let scaled := i.value * step.den
  let unit := step.num * i.den
  let below := scaled / unit
  let toBelow := scaled - below * unit
  let toAbove := (below + 1) * unit - scaled
  match i.contains step below && 0 < below, i.contains step (below + 1) with
  | true, true =>
    if toBelow < toAbove || (toBelow = toAbove && below % 2 = 0) then some below
    else some (below + 1)
  | true, false => some below
  | false, true => some (below + 1)
  | false, false => none

/-- The first grid with a point that reads back, from a grid on; `fuel` bounds the number of
grids. -/
def Interval.search (i : Interval) : Nat → Int → Scientific
  | 0, k => { digits := 0, exponent := k }
  | fuel + 1, k =>
    match i.onGrid? k with
    | some n => { digits := n, exponent := k }
    | none => i.search fuel (k - 1)

/-- A power of ten above every double. -/
def topExponent : Int := 309

/-- The number of grids from the coarsest to the finest that any double needs. -/
def gridCount : Nat := 309 + 324 + 18

/-- The same number without trailing zeros among its digits; `fuel` bounds their number. -/
def trim : Nat → Scientific → Scientific
  | 0, d => d
  | fuel + 1, d =>
    if d.digits ≠ 0 && d.digits % 10 = 0 then
      trim fuel { digits := d.digits / 10, exponent := d.exponent + 1 }
    else d

/-- The shortest decimal of a positive double. -/
def shortest (b : Binary) : Scientific := trim 20 (b.interval.search gridCount topExponent)

end ApiPlatform.Decimal
