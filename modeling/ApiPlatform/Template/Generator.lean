/-!
# Generated values

An expression `[class]{length}` asks for that many characters of a class, each drawn at
random.  A class lists characters and ranges; it is read from left to right, and a dash makes a
range of the characters around it when both are there.
-/

namespace ApiPlatform

/-- A source of random numbers: the draws in the order in which they are made. -/
abbrev Draws := Nat → Nat

/-- The draws after the first `n`. -/
def Draws.drop (d : Draws) (n : Nat) : Draws := fun i => d (n + i)

/-- How many bytes make a draw. -/
def Draws.width : Nat := 8

/-- The draws that random bytes give, eight bytes for each; zero where the bytes have ended. -/
def Draws.ofBytes (bytes : ByteArray) : Draws := fun i =>
  (List.range Draws.width).foldl
    (fun n k => n * 256 + ((bytes[i * Draws.width + k]?).getD 0).toNat) 0

namespace Generator

/-- The characters from `a` to `b`; surrogates are none. -/
def charRange (a b : Char) : List Char :=
  (List.range' a.toNat (b.toNat + 1 - a.toNat)).filterMap fun n =>
    if h : n.isValidChar then some (Char.ofNatAux n h) else none

/-- The characters of a class; a range that runs backwards is refused. -/
def alphabet? : List Char → Option (List Char)
  | [] => some []
  | a :: '-' :: b :: rest =>
    if a ≤ b then do
      let others ← alphabet? rest
      some (charRange a b ++ others)
    else none
  | c :: rest => do
    let others ← alphabet? rest
    some (c :: others)

/-- The number that a list of digits stands for. -/
def number (digits : List Char) : Nat :=
  digits.foldl (fun n c => n * 10 + (c.toNat - '0'.toNat)) 0

/-- An expression taken apart. -/
structure Expression where
  /-- The characters to draw from. -/
  alphabet : List Char
  /-- How many characters to draw. -/
  length : Nat
  nonempty : alphabet ≠ []

/-- One less than which every length has to be: lengths fit in 64 bits. -/
def lengthBound : Nat := Nat.pow 2 64

/-- The length at the end of an expression. -/
def length? : List Char → Option Nat
  | '{' :: rest =>
    let digits := rest.takeWhile Char.isDigit
    match rest.drop digits.length with
    | ['}'] =>
      if digits.isEmpty || lengthBound ≤ number digits then none else some (number digits)
    | _ => none
  | _ => none

/-- Takes an expression apart. -/
def Expression.ofText? (s : String) : Option Expression :=
  match s.toList with
  | '[' :: rest =>
    let members := rest.takeWhile (· ≠ ']')
    match rest.drop members.length with
    | ']' :: tail => do
      let length ← length? tail
      let alphabet ← alphabet? members
      if h : alphabet ≠ [] then some ⟨alphabet, length, h⟩ else none
    | _ => none
  | _ => none

def Expression.pick (e : Expression) (draw : Nat) : Char :=
  e.alphabet.get ⟨draw % e.alphabet.length, Nat.mod_lt _ (List.length_pos_iff.2 e.nonempty)⟩

/-- The value that an expression gives for some draws. -/
def Expression.generate (e : Expression) (d : Draws) : String :=
  String.ofList ((List.range e.length).map fun i => e.pick (d i))

end Generator

end ApiPlatform
