import ApiPlatform.Unicode.CombiningClass
import ApiPlatform.Unicode.Direction
import ApiPlatform.Unicode.Joining
import ApiPlatform.Unicode.Normalization
import ApiPlatform.Url.Mapping
/-!
# Labels of domain names

What the parts of a domain name between the dots may be: normalized texts of characters that are
kept, which start with no mark, hold joiners only where they change what is seen, and, if the name
is written from right to left in part, mix directions only where no doubt arises.
-/

namespace ApiPlatform.Label

/-- The character that keeps letters from joining. -/
def nonJoiner : Char := '\u200c'

/-- The character that makes letters join. -/
def joiner : Char := '\u200d'

/-- Whether a character takes the vowel from the consonant before it. -/
def isVirama (c : Char) : Bool := Unicode.combiningClass c = Unicode.viramaClass

/-- Whether letters would join across a place; `before` is read away from that place. -/
def joinsAcross (before after : List Char) : Bool :=
  (before.find? (!Unicode.isTransparent ·)).any Unicode.joinsNext &&
    (after.find? (!Unicode.isTransparent ·)).any Unicode.joinsPrevious

/-- Whether every joiner stands where it changes what is seen; `before` is read away from here. -/
def hasFittingJoiners (before : List Char) : List Char → Bool
  | [] => true
  | c :: rest =>
    let isFitting :=
      if c = joiner then before.head?.any isVirama
      else if c = nonJoiner then before.head?.any isVirama || joinsAcross before rest
      else true
    isFitting && hasFittingJoiners (c :: before) rest

/-- Whether a text may be a label. -/
def isValid (cs : List Char) : Bool :=
  cs.all Domain.isKept && Unicode.normalize cs = cs && !cs.head?.any Unicode.isMark &&
    hasFittingJoiners [] cs

/-- The directions of the characters, without marks at the end. -/
def directions (cs : List Char) : List Unicode.Direction :=
  ((cs.map Unicode.direction).reverse.dropWhile (· = .mark)).reverse

/-- Whether a text has a character that is written from right to left. -/
def isMixed (cs : List Char) : Bool :=
  cs.any fun c =>
    let d := Unicode.direction c
    d = .rightToLeft || d = .arabicNumber

/-- Whether a label may stand in a name that is written from right to left in part. -/
def hasClearDirection (cs : List Char) : Bool :=
  let ds := directions cs
  match cs.head?.map Unicode.direction with
  | none => true
  | some .leftToRight =>
    ds.all (fun d => d ≠ .rightToLeft && d ≠ .arabicNumber) &&
      ds.getLast?.any fun d => d = .leftToRight || d = .europeanNumber
  | some .rightToLeft =>
    ds.all (· ≠ .leftToRight) && !(ds.contains .europeanNumber && ds.contains .arabicNumber) &&
      ds.getLast?.any fun d => d = .rightToLeft || d = .europeanNumber || d = .arabicNumber
  | some _ => false

end ApiPlatform.Label
