import ApiPlatform.Text.Bytes
import ApiPlatform.Text.Digits
/-!
# Percent encoding

Bytes that a part of a URL cannot hold are written as a percent sign and two digits of base
sixteen.  Each part has its own set of characters that need this; control characters and
everything outside ASCII always do.  A percent sign itself is left as it is.
-/

namespace ApiPlatform.Percent

/-- The upper case digit for a value below sixteen. -/
def digit (n : Nat) : Char :=
  if n < 10 then Char.ofNat ('0'.toNat + n) else Char.ofNat ('A'.toNat + (n - 10))

def encodeByte (b : UInt8) : List Char := ['%', digit (b.toNat / 16), digit (b.toNat % 16)]

/-- Whether a character is a control character or outside ASCII. -/
def isControl (c : Char) : Bool := c < ' ' || '~' < c

/-- The characters that a fragment cannot hold. -/
def inFragment (c : Char) : Bool := isControl c || [' ', '"', '<', '>', '\x60'].contains c

/-- The characters that a path segment cannot hold. -/
def inPath (c : Char) : Bool := inFragment c || ['#', '?', '{', '}'].contains c

/-- The characters that user information cannot hold. -/
def inUserInfo (c : Char) : Bool :=
  inPath c || ['/', ':', ';', '=', '@', '[', '\\', ']', '^', '|'].contains c

/-- The characters that a query cannot hold. -/
def inQuery (c : Char) : Bool := isControl c || [' ', '"', '#', '<', '>'].contains c

/-- The characters that the query of a special URL cannot hold. -/
def inSpecialQuery (c : Char) : Bool := inQuery c || c = '\''

/-- A text with every character of a set written as bytes. -/
def encode (set : Char → Bool) (cs : List Char) : List Char :=
  cs.flatMap fun c => if set c then (String.utf8EncodeChar c).flatMap encodeByte else [c]

/-- The bytes that a text stands for.  A percent sign without two digits stands for itself. -/
def decode : List Char → Bytes
  | [] => []
  | '%' :: h :: l :: rest =>
    match Digits.value? h, Digits.value? l with
    | some a, some b => UInt8.ofNat (a * 16 + b) :: decode rest
    | _, _ => 0x25 :: decode (h :: l :: rest)
  | c :: rest => String.utf8EncodeChar c ++ decode rest

/-- A value in a query in the form in which forms are sent: a space is a plus sign. -/
def encodeForm (s : String) : String :=
  String.ofList ((Bytes.ofText s).flatMap fun b =>
    let c := Char.ofNat b.toNat
    if c.isAlphanum || ['*', '-', '.', '_'].contains c then [c]
    else if c = ' ' then ['+']
    else encodeByte b)

end ApiPlatform.Percent
