import ApiPlatform.Text.Digits
/-!
# What a plain scalar stands for

A text without quotes may read back as something else than a text: as nothing, as a truth value
or as a number.  A text that would has to be quoted.
-/

namespace ApiPlatform.Yaml

/-- The texts that stand for nothing. -/
def nullTexts : List String := ["", "null", "Null", "NULL", "~"]

/-- The texts that stand for truth values. -/
def boolTexts : List String := ["true", "True", "TRUE", "false", "False", "FALSE"]

/-- The texts that stand for infinities and for no number, without a sign. -/
def infinityTexts : List String := [".inf", ".Inf", ".INF"]

/-- The texts that stand for a number that is none. -/
def nanTexts : List String := [".nan", ".NaN", ".NAN"]

/-- A text without a sign at its start, and whether there was a minus sign. -/
def splitSign : List Char → Bool × List Char
  | '-' :: cs => (true, cs)
  | '+' :: cs => (false, cs)
  | cs => (false, cs)

/-- The number that some digits stand for, if there are any and all of them belong to the base. -/
def number? (base : Nat) (cs : List Char) : Option Nat :=
  if cs.isEmpty then none else Digits.number? base cs

/-- Whether a number fits in 128 bits. -/
def fits (negative : Bool) (n : Nat) : Bool :=
  if negative then n ≤ Nat.pow 2 127 else n < Nat.pow 2 128

/-- Whether digits of a base stand for a whole number of 128 bits. -/
def isWhole (base : Nat) (negative : Bool) (cs : List Char) : Bool :=
  (number? base cs).any (fits negative)

/-- Whether a text is digits behind a leading zero.  It stands for itself, but is quoted, because
other readers take it for a number. -/
def isZeroPadded (cs : List Char) : Bool :=
  match (splitSign cs).2 with
  | '0' :: c :: rest => (c :: rest).all Char.isDigit
  | _ => false

def isInteger (cs : List Char) : Bool :=
  let (negative, digits) := splitSign cs
  match digits with
  | '0' :: 'x' :: rest => isWhole 16 negative rest
  | '0' :: 'o' :: rest => isWhole 8 negative rest
  | '0' :: 'b' :: rest => isWhole 2 negative rest
  | digits => isWhole 10 negative digits

/-- One more than half of the way from the largest double to the next power of two: numbers from
here on round to infinity. -/
def doubleLimit : Nat := Nat.pow 2 1024 - Nat.pow 2 970

/-- Whether `n * 10 ^ e` is below the limit. -/
def isFinite (n : Nat) (e : Int) : Bool :=
  if n = 0 then true
  else if 400 < e then false
  else if 0 ≤ e then n * Nat.pow 10 e.toNat < doubleLimit
  else if e < -100000 then true
  else n < doubleLimit * Nat.pow 10 (-e).toNat

/-- The exponent behind the digits of a number; zero if there is none. -/
def exponent? : List Char → Option Int
  | [] => some 0
  | e :: rest =>
    if e = 'e' || e = 'E' then
      let (negative, digits) := splitSign rest
      (number? 10 digits).map fun n => if negative then -(n : Int) else n
    else none

/-- Whether a text stands for a finite number with a point or an exponent. -/
def isDecimal (cs : List Char) : Bool :=
  let whole := cs.takeWhile Char.isDigit
  let rest := cs.drop whole.length
  let (places, rest) := match rest with
    | '.' :: rest =>
      let places := rest.takeWhile Char.isDigit
      (places, rest.drop places.length)
    | rest => ([], rest)
  match number? 10 (whole ++ places), exponent? rest with
  | some n, some e => isFinite n (e - places.length)
  | _, _ => false

/-- Whether a text stands for a number that need not be whole. -/
def isFloat (s : String) : Bool :=
  let digits := (splitSign s.toList).2
  let unsigned := String.ofList digits
  infinityTexts.contains unsigned || nanTexts.contains s || isDecimal digits

/-- Whether a text without quotes would read back as something else, or might. -/
def readsAsOther (s : String) : Bool :=
  nullTexts.contains s || boolTexts.contains s || isInteger s.toList || isZeroPadded s.toList ||
    isFloat s

end ApiPlatform.Yaml
