import ApiPlatform.Url.Label
import ApiPlatform.Url.Punycode
/-!
# Domain names

The form in which domain names are looked up: ASCII throughout, with every label that has other
characters written in Punycode behind `xn--`.
-/

namespace ApiPlatform.Domain

/-- The ASCII characters that no domain name may contain. -/
def isForbidden (c : Char) : Bool :=
  c ≤ ' ' || c = '\x7f' ||
    ['%', '#', '/', ':', '<', '>', '?', '@', '[', '\\', ']', '^', '|'].contains c

/-- What stands before a label in Punycode. -/
def encodedLead : List Char := ['x', 'n', '-', '-']

def isAscii (c : Char) : Bool := c.toNat < 0x80

/-- The parts between the dots. -/
def labels : List Char → List (List Char)
  | [] => [[]]
  | c :: rest =>
    match labels rest with
    | label :: others => if c = '.' then [] :: label :: others else (c :: label) :: others
    | [] => [[c]]

/-- The text of a label: what it stands for if it is in Punycode, which has to be needed. -/
def readLabel? (cs : List Char) : Option (List Char) :=
  if encodedLead.isPrefixOf cs then do
    let text ← if cs.all isAscii then Punycode.decode? (cs.drop encodedLead.length) else none
    if text.all isAscii then none else some text
  else some cs

/-- The lookup form of a label. -/
def writeLabel (cs : List Char) : List Char :=
  if cs.all isAscii then cs else encodedLead ++ Punycode.encode cs

/-- The lookup form of a domain name, if it has one. -/
def toAscii? (cs : List Char) : Option (List Char) := do
  let mapped ← cs.mapM mapChar?
  let texts ← (labels (Unicode.normalize mapped.flatten)).mapM readLabel?
  let isMixed := texts.any Label.isMixed
  if texts.all (fun cs => Label.isValid cs && (!isMixed || Label.hasClearDirection cs)) &&
      !texts.any (·.any isForbidden) then
    some (['.'].intercalate (texts.map writeLabel))
  else none

end ApiPlatform.Domain
