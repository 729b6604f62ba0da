import ApiPlatform.Text.Digits
/-!
# Tables of characters

Properties of characters are tables of text: words with code points in base sixteen.
-/

namespace ApiPlatform

namespace Unicode

def wordsOfText (lines : List String) : List String := lines.flatMap (·.splitOn " ")

/-- The number that a word stands for; zero if it is none. -/
def codePoint (word : String) : Nat := (Digits.number? 16 word.toList).getD 0

/-- The character that a word stands for. -/
def character (word : String) : Char := Char.ofNat (codePoint word)

end Unicode

/-- Ranges of code points, each with its first and last one. -/
abbrev CharRanges := List (Nat × Nat)

namespace CharRanges

/-- The range that a word stands for: one code point, or two with a dash between. -/
def ofWord (word : String) : Nat × Nat :=
  match word.splitOn "-" with
  | [first, last] => (Unicode.codePoint first, Unicode.codePoint last)
  | _ => (Unicode.codePoint word, Unicode.codePoint word)

/-- The ranges that some lines stand for. -/
def ofText (lines : List String) : CharRanges := (Unicode.wordsOfText lines).map ofWord

def contains (r : CharRanges) (c : Char) : Bool :=
  r.any fun range => range.1 ≤ c.toNat && c.toNat ≤ range.2

end CharRanges

/-- Pairs of characters, each a word with an angle between them. -/
def Unicode.pairsOfText (lines : List String) : List (Char × Char) :=
  (wordsOfText lines).filterMap fun word =>
    match word.splitOn ">" with
    | [a, b] => some (character a, character b)
    | _ => none

/-- Characters that stand for others at a constant distance. -/
structure CharShift where
  first : Nat
  last : Nat
  /-- One if it is every character from the first to the last, two if it is every second one. -/
  step : Nat
  /-- What the first one stands for. -/
  target : Nat
  deriving DecidableEq, Repr

namespace CharShift

/-- The shift that a word stands for: a range, a step behind a slash unless it is one, and the
target behind an angle. -/
def ofWord? (word : String) : Option CharShift :=
  match word.splitOn ">" with
  | [source, target] =>
    let (range, step) := match source.splitOn "/" with
      | [range, step] => (CharRanges.ofWord range, Unicode.codePoint step)
      | _ => (CharRanges.ofWord source, 1)
    some ⟨range.1, range.2, step, Unicode.codePoint target⟩
  | _ => none

/-- The shifts that some lines stand for. -/
def ofText (lines : List String) : List CharShift :=
  (Unicode.wordsOfText lines).filterMap ofWord?

/-- What a character stands for. -/
def target? (s : CharShift) (c : Char) : Option Char :=
  if s.first ≤ c.toNat && c.toNat ≤ s.last && (c.toNat - s.first) % s.step = 0 then
    some (Char.ofNat (s.target + (c.toNat - s.first)))
  else none

end CharShift

/-- Characters with what they stand for.  A word is what the next character stands for, with dots
between several; a code point and a colon before it say which character that is. -/
def Unicode.replacementsOfText (lines : List String) : List (Char × List Char) :=
  let target := fun word : String => (word.splitOn ".").map character
  let entry := fun (next : Nat) (word : String) =>
    match word.splitOn ":" with
    | [start, word] => (codePoint start, target word)
    | _ => (next, target word)
  ((wordsOfText lines).foldl
    (fun (state : Nat × List (Char × List Char)) word =>
      let (here, targets) := entry state.1 word
      (here + 1, (Char.ofNat here, targets) :: state.2))
    (0, [])).2.reverse

end ApiPlatform
