import ApiPlatform.Url.Error
import ApiPlatform.Text.Digits
/-!
# Addresses as hosts

Numeric hosts.  An IPv4 address has up to four parts, each decimal, octal after a zero or
hexadecimal after `0x`; the last part fills the bytes that are left.  An IPv6 address is eight
pieces, of which one run of zeros may be left out, and the last two may be an IPv4 address.
-/

namespace ApiPlatform

namespace Ipv4

/-- The number that a part stands for, without regard to its size. -/
def part? : List Char → Option Nat
  | [] => none
  | '0' :: 'x' :: cs => Digits.number? 16 cs
  | '0' :: 'X' :: cs => Digits.number? 16 cs
  | ['0'] => some 0
  | '0' :: cs => Digits.number? 8 cs
  | cs => Digits.number? 10 cs

/-- The parts of a host without a trailing dot. -/
def parts (host : String) : List (List Char) :=
  let parts := (host.splitOn ".").map String.toList
  if parts.getLast? = some [] then parts.dropLast else parts

/-- Whether a host ends like a number, so that it has to be an address. -/
def looksNumeric (host : String) : Bool :=
  match (parts host).getLast? with
  | some last => (!last.isEmpty && last.all Char.isDigit) || (part? last).isSome
  | none => false

/-- The numbers of the parts as an address. -/
def assemble? (numbers : List Nat) : Option UInt32 :=
  match numbers.reverse with
  | [] => none
  | last :: leading =>
    let room := Nat.pow 256 (4 - leading.length)
    if 3 < leading.length || room ≤ last || leading.any (255 < ·) then none
    else
      let high := leading.reverse.foldl (fun n part => n * 256 + part) 0
      some (UInt32.ofNat (high * room + last))

/-- Reads an address. -/
def parse (host : String) : Except UrlError UInt32 :=
  match ((parts host).mapM part?).bind assemble? with
  | some n => .ok n
  | none => .error .ipv4

/-- The four bytes of an address, with dots between. -/
def text (n : UInt32) : String :=
  let n := n.toNat
  s!"{n / 16777216}.{n / 65536 % 256}.{n / 256 % 256}.{n % 256}"

end Ipv4

/-- The eight pieces of an IPv6 address. -/
abbrev Ipv6 := { pieces : List UInt16 // pieces.length = 8 }

namespace Ipv6

/-- A decimal number below 256 without leading zeros. -/
def byte? (cs : List Char) : Option Nat :=
  match cs with
  | [] => none
  | ['0'] => some 0
  | '0' :: _ => none
  | cs => (Digits.number? 10 cs).filter (· < 256)

/-- The two pieces of an embedded IPv4 address. -/
def embedded? (cs : List Char) : Option (List UInt16) :=
  match (((String.ofList cs).splitOn ".").map String.toList).mapM byte? with
  | some [a, b, c, d] => some [UInt16.ofNat (a * 256 + b), UInt16.ofNat (c * 256 + d)]
  | _ => none

/-- A piece of one to four digits. -/
def piece? (cs : List Char) : Option (List UInt16) :=
  if cs.isEmpty || 4 < cs.length then none
  else (Digits.number? 16 cs).map fun n => [UInt16.ofNat n]

/-- The pieces of a text without a run left out; only the last one may be an IPv4 address. -/
def pieces? : List (List Char) → Option (List UInt16)
  | [] => some []
  | [last] => if last.contains '.' then embedded? last else piece? last
  | cs :: rest => do
    let first ← piece? cs
    let others ← pieces? rest
    some (first ++ others)

/-- The pieces of one side of a run that is left out. -/
def side? (s : String) : Option (List UInt16) :=
  if s.isEmpty then some [] else pieces? ((s.splitOn ":").map String.toList)

/-- Eight pieces as an address. -/
def ofPieces? (pieces : List UInt16) : Option Ipv6 :=
  if h : pieces.length = 8 then some ⟨pieces, h⟩ else none

/-- Reads an address without its brackets. -/
def parse (s : String) : Except UrlError Ipv6 :=
  let address :=
    match s.splitOn "::" with
    | [whole] => (pieces? ((whole.splitOn ":").map String.toList)).bind ofPieces?
    | [left, right] => do
      let before ← if left.contains '.' then none else side? left
      let after ← side? right
      if 7 < before.length + after.length then none
      else ofPieces? (before ++ List.replicate (8 - before.length - after.length) 0 ++ after)
    | _ => none
  match address with
  | some a => .ok a
  | none => .error .ipv6

/-- Length of the run of zeros that pieces start with. -/
def zeros (pieces : List UInt16) : Nat := (pieces.takeWhile (· = 0)).length

/-- Start and length of the longest run of at least two zeros; the first of several. -/
def longestRun (pieces : List UInt16) : Option (Nat × Nat) :=
  let runs := (List.range pieces.length).map fun i => (i, zeros (pieces.drop i))
  runs.foldl
    (fun best run =>
      if run.2 < 2 then best
      else
        match best with
        | some b => if b.2 < run.2 then some run else best
        | none => some run)
    none

/-- Pieces with colons between. -/
def piecesText (pieces : List UInt16) : String :=
  ":".intercalate (pieces.map fun p => String.ofList (Nat.toDigits 16 p.toNat))

/-- The shortest text of an address: the longest run of zeros is left out. -/
def text (a : Ipv6) : String :=
  match longestRun a.val with
  | some (start, length) =>
    piecesText (a.val.take start) ++ "::" ++ piecesText (a.val.drop (start + length))
  | none => piecesText a.val

end Ipv6

end ApiPlatform
