import ApiPlatform.Unicode.CombiningClass
import ApiPlatform.Unicode.Composition
/-!
# Normalization

One form for texts that look the same: everything is taken apart, marks are put in the order of
their classes, and then everything that can be composed is.
-/

namespace ApiPlatform.Unicode

/-- One step of taking apart. -/
def decomposeOnce (cs : List Char) : List Char :=
  cs.flatMap fun c => match decompose? c with
    | some (a, b) => [a, b]
    | none => [c]

/-- How many steps take a character apart completely. -/
def decompositionDepth : Nat := 3

/-- A text with every character taken apart. -/
def decompose (cs : List Char) : List Char := Nat.repeat decomposeOnce decompositionDepth cs

/-- Puts a character before a text, behind the marks at its start that have a smaller class. -/
def insertMark (c : Char) : List Char → List Char
  | [] => [c]
  | d :: rest =>
    if 0 < combiningClass d && combiningClass d < combiningClass c then d :: insertMark c rest
    else c :: d :: rest

/-- A text with marks in the order of their classes. -/
def orderMarks (cs : List Char) : List Char := cs.foldr insertMark []

/-- A text on the way to its composed form. -/
structure Composing where
  /-- What is finished, last to first. -/
  finished : List Char := []
  /-- The base that what follows may be composed with. -/
  base : Option Char := none
  /-- What stands behind the base and is not composed with it, last to first. -/
  behind : List Char := []

namespace Composing

/-- Everything so far, last to first. -/
def all (s : Composing) : List Char := s.behind ++ s.base.toList ++ s.finished

/-- Whether something stands between the base and a character that keeps them apart. -/
def separates (s : Composing) (c : Char) : Bool :=
  s.behind.head?.any fun d => combiningClass c ≤ combiningClass d

/-- Adds a character. -/
def push (s : Composing) (c : Char) : Composing :=
  match if s.separates c then none else s.base.bind (compose? · c) with
  | some composed => { s with base := some composed }
  | none =>
    if combiningClass c = 0 then { finished := s.all, base := some c }
    else { s with behind := c :: s.behind }

end Composing

/-- A text with everything composed that can be. -/
def compose (cs : List Char) : List Char := (cs.foldl Composing.push {}).all.reverse

/-- The normal form of a text. -/
def normalize (cs : List Char) : List Char := compose (orderMarks (decompose cs))

end ApiPlatform.Unicode
