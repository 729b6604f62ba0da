import ApiPlatform.Collections.SortedMap
/-!
# Punycode

Any characters as a run of letters, digits and dashes.  The ASCII characters come first, and
behind a dash, for each other character in increasing order, how far one has to go from the one
before to it and to its place, as a number whose digits end by themselves.
-/

namespace ApiPlatform.Punycode

def base : Nat := 36

/-- The first character past ASCII, where counting starts. -/
def firstPoint : Nat := 128

/-- The offset of the thresholds at the start. -/
def firstBias : Nat := 72

/-- The digit for a value. -/
def digit (n : Nat) : Char :=
  if n < 26 then Char.ofNat ('a'.toNat + n) else Char.ofNat ('0'.toNat + (n - 26))

def value? (c : Char) : Option Nat :=
  if 'a' ≤ c ∧ c ≤ 'z' then some (c.toNat - 'a'.toNat)
  else if 'A' ≤ c ∧ c ≤ 'Z' then some (c.toNat - 'A'.toNat)
  else if '0' ≤ c ∧ c ≤ '9' then some (c.toNat - '0'.toNat + 26)
  else none

/-- The value below which a digit is the last one; `position` counts digits from one. -/
def threshold (bias position : Nat) : Nat := min 26 (max 1 (base * position - bias))

theorem threshold_pos (bias position : Nat) : 0 < threshold bias position := by
  unfold threshold; omega

/-- Divides a distance until it is small and counts the divisions in units of the base. -/
def settle (distance : Nat) : Nat × Nat :=
  if 455 < distance then
    let (rest, bias) := settle (distance / 35)
    (rest, bias + base)
  else (distance, 0)
termination_by distance
decreasing_by omega

/-- The bias after a distance was written; `count` is the number of characters there are now. -/
def adapt (distance count : Nat) (isFirst : Bool) : Nat :=
  let distance := if isFirst then distance / 700 else distance / 2
  let (distance, bias) := settle (distance + distance / count)
  bias + base * distance / (distance + 38)

def digits (bias position distance : Nat) : List Char :=
  let t := threshold bias position
  if distance < t then [digit distance]
  else
    digit (t + (distance - t) % (base - t)) ::
      digits bias (position + 1) ((distance - t) / (base - t))
termination_by distance
decreasing_by
  have := threshold_pos bias position
  calc (distance - threshold bias position) / (base - threshold bias position)
      ≤ distance - threshold bias position := Nat.div_le_self _ _
    _ < distance := by omega

/-- A text that is being written. -/
structure Writing where
  /-- The digits so far. -/
  written : List Char := []
  /-- How far it is to here from the character before. -/
  distance : Nat := 0
  bias : Nat := firstBias
  /-- How many characters have been written. -/
  count : Nat

namespace Writing

/-- Passes a place of the text, where the characters of one code point are written. -/
def pass (isFirst : Nat → Bool) (point : Nat) (s : Writing) (c : Char) : Writing :=
  if c.toNat < point then { s with distance := s.distance + 1 }
  else if c.toNat = point then
    { written := s.written ++ digits s.bias 1 s.distance
      distance := 0
      bias := adapt s.distance (s.count + 1) (isFirst s.count)
      count := s.count + 1 }
  else s

/-- Writes the characters of each code point; `next` is the one from which it is counted. -/
def points (cs : List Char) (isFirst : Nat → Bool) (next : Nat) (s : Writing) :
    List Nat → Writing
  | [] => s
  | point :: rest =>
    let s := { s with distance := s.distance + (point - next) * (s.count + 1) }
    let s := cs.foldl (pass isFirst point) s
    points cs isFirst (point + 1) { s with distance := s.distance + 1 } rest

end Writing

def isBasic (c : Char) : Bool := c.toNat < firstPoint

/-- The written form of a text. -/
def encode (cs : List Char) : List Char :=
  let basic := cs.filter isBasic
  let others := (cs.filter (!isBasic ·)).map fun c => (c.toNat, ())
  let s := Writing.points cs (· = basic.length) firstPoint { count := basic.length }
    (SortedMap.ofList others).keys
  basic ++ (if basic.isEmpty then [] else ['-']) ++ s.written

/-- A text that is being read. -/
structure Reading where
  text : List Char
  /-- The code point that was put in last. -/
  point : Nat := firstPoint
  /-- The place behind it. -/
  place : Nat := 0
  bias : Nat := firstBias
  /-- The distance as far as its digits have been read. -/
  distance : Nat := 0
  weight : Nat := 1
  /-- The position of the next digit. -/
  position : Nat := 1
  isFirst : Bool := true

namespace Reading

/-- Puts in the character at the distance that was read. -/
def insert? (s : Reading) : Option Reading :=
  let count := s.text.length + 1
  let target := s.place + s.distance
  let point := s.point + target / count
  let place := target % count
  if h : point.isValidChar then
    some
      { text := s.text.take place ++ Char.ofNatAux point h :: s.text.drop place
        point
        place := place + 1
        bias := adapt s.distance count s.isFirst
        isFirst := false }
  else none

def push? (s : Reading) (c : Char) : Option Reading := do
  let d ← value? c
  let t := threshold s.bias s.position
  let s := { s with distance := s.distance + d * s.weight }
  if d < t then s.insert?
  else some { s with weight := s.weight * (base - t), position := s.position + 1 }

end Reading

/-- The text that a written form stands for. -/
def decode? (cs : List Char) : Option (List Char) := do
  let last := (cs.reverse.takeWhile (· ≠ '-')).length
  let basic := cs.take (cs.length - last - 1)
  let digits := if basic.isEmpty then cs else cs.drop (cs.length - last)
  let s ← digits.foldlM Reading.push? { text := basic }
  if s.position = 1 then some s.text else none

end ApiPlatform.Punycode
