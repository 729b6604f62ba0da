import ApiPlatform.Yaml.Resolution
/-!
# Scalars

The styles in which a text can be written, the choice between them and the text of each.  Texts
with line feeds are written as literal blocks where that is possible, texts that would read back
as something else in single quotes, and all others plainly.  Where a style cannot hold a text, a
stronger one is taken; double quotes can hold every text.
-/

namespace ApiPlatform.Yaml

inductive ScalarStyle where
  | plain
  | singleQuoted
  | doubleQuoted
  | literal
  deriving DecidableEq, Repr

/-- Whether a character ends a line. -/
def isBreak (c : Char) : Bool :=
  c = '\n' || c = '\r' || c = '\u0085' || c = '\u2028' || c = '\u2029'

/-- Whether a character separates words or ends a text. -/
def isBlank (c : Char) : Bool := c = ' ' || c = '\t' || c = '\x00' || isBreak c

/-- Whether a character can be written as it is. -/
def isWritable (c : Char) : Bool :=
  c = '\n' || (' ' ≤ c && c ≤ '~') || ('\u00a0' ≤ c && c ≤ '\ufffd' && c ≠ '\ufeff')

/-- The characters with a meaning of their own at the start of a scalar. -/
def startIndicators : List Char :=
  ['#', ',', '[', ']', '{', '}', '&', '*', '!', '|', '>', '\'', '"', '%', '@', '\x60']

/-- Whether the characters that follow one begin with a separation. -/
def startsBlank : List Char → Bool
  | [] => true
  | c :: _ => isBlank c

/-- Whether a text starts like something else than a plain scalar. -/
def startsWithIndicator : List Char → Bool
  | [] => false
  | c :: rest =>
    startIndicators.contains c || ((c = '?' || c = ':' || c = '-') && startsBlank rest) ||
      ['-', '-', '-'].isPrefixOf (c :: rest) || ['.', '.', '.'].isPrefixOf (c :: rest)

/-- Whether a text contains the end of a key or the start of a comment; `blank` says whether the
character before is a separation. -/
def containsIndicator : Bool → List Char → Bool
  | _, [] => false
  | blank, c :: rest =>
    (c = ':' && startsBlank rest) || (c = '#' && blank) || containsIndicator (isBlank c) rest

/-- Whether a text has a character of one class right before one of another. -/
def hasPair (p q : Char → Bool) : List Char → Bool
  | c :: d :: rest => (p c && q d) || hasPair p q (d :: rest)
  | _ => false

/-- Whether a space stands right before the end of a line. -/
def hasSpaceBreak (cs : List Char) : Bool := hasPair (· = ' ') isBreak cs

/-- Whether a line starts with a space. -/
def hasBreakSpace (cs : List Char) : Bool := hasPair isBreak (· = ' ') cs

/-- Whether a text starts or ends with a space or a line end. -/
def hasOuterBlank (cs : List Char) : Bool :=
  let isOuter := fun c : Char => c = ' ' || isBreak c
  cs.head?.any isOuter || cs.getLast?.any isOuter

/-- Whether a text can be written plainly. -/
def allowsPlain (cs : List Char) : Bool :=
  cs.all isWritable && !cs.any isBreak && !hasOuterBlank cs && !startsWithIndicator cs &&
    !containsIndicator (cs.head?.any isBlank) (cs.drop 1)

/-- Whether a text can be written in single quotes. -/
def allowsSingleQuoted (cs : List Char) : Bool :=
  cs.all isWritable && !hasBreakSpace cs && !hasSpaceBreak cs

/-- Whether a text can be written as a literal block. -/
def allowsLiteral (cs : List Char) : Bool :=
  !cs.isEmpty && cs.all isWritable && !hasSpaceBreak cs && cs.getLast? ≠ some ' '

/-- The style in which a text is written. -/
def styleOf (s : String) : ScalarStyle :=
  let cs := s.toList
  if cs.contains '\n' then
    if allowsLiteral cs then .literal else .doubleQuoted
  else if !readsAsOther s && allowsPlain cs then .plain
  else if allowsSingleQuoted cs then .singleQuoted
  else .doubleQuoted

/-- The digits of a number in base sixteen, in upper case and with leading zeros. -/
def hexDigits (width n : Nat) : List Char :=
  let digits := (Nat.toDigits 16 n).map Char.toUpper
  List.replicate (width - digits.length) '0' ++ digits

/-- A character in double quotes that cannot be written as it is. -/
def escape (c : Char) : List Char :=
  match c with
  | '\x00' => ['\\', '0']
  | '\x07' => ['\\', 'a']
  | '\x08' => ['\\', 'b']
  | '\t' => ['\\', 't']
  | '\n' => ['\\', 'n']
  | '\x0b' => ['\\', 'v']
  | '\x0c' => ['\\', 'f']
  | '\r' => ['\\', 'r']
  | '\x1b' => ['\\', 'e']
  | '"' => ['\\', '"']
  | '\\' => ['\\', '\\']
  | '\u0085' => ['\\', 'N']
  | '\u2028' => ['\\', 'L']
  | '\u2029' => ['\\', 'P']
  | c =>
    if c.toNat ≤ 0xFF then ['\\', 'x'] ++ hexDigits 2 c.toNat
    else if c.toNat ≤ 0xFFFF then ['\\', 'u'] ++ hexDigits 4 c.toNat
    else ['\\', 'U'] ++ hexDigits 8 c.toNat

/-- Whether a character is escaped in double quotes. -/
def isEscaped (c : Char) : Bool := !isWritable c || isBreak c || c = '"' || c = '\\'

def doubleQuotedText (cs : List Char) : List Char :=
  ['"'] ++ cs.flatMap (fun c => if isEscaped c then escape c else [c]) ++ ['"']

/-- A text in which every line but the first is indented; lines without characters stay empty.
`fresh` says whether a line starts. -/
def indented (indent : Nat) : Bool → List Char → List Char
  | _, [] => []
  | fresh, c :: rest =>
    if isBreak c then c :: indented indent true rest
    else
      let before := if fresh then List.replicate indent ' ' else []
      before ++ c :: indented indent false rest

/-- A text in single quotes; line ends are followed by indentation. -/
def singleQuotedText (indent : Nat) (cs : List Char) : List Char :=
  let inner := indented indent false (cs.flatMap fun c => if c = '\'' then ['\'', '\''] else [c])
  let after := if cs.getLast?.any isBreak then List.replicate indent ' ' else []
  ['\''] ++ inner ++ after ++ ['\'']

/-- The step by which nested lines are indented. -/
def indentStep : Nat := 2

/-- The marks behind the bar of a literal block: the indentation, where the first line hides it,
and what becomes of the line ends at the end of the text. -/
def literalHints (cs : List Char) : List Char :=
  let indentation :=
    if cs.head?.any fun c => c = ' ' || isBreak c then Nat.toDigits 10 indentStep else []
  let chomping := match cs.reverse with
    | [] => ['-']
    | [c] => if isBreak c then ['+'] else ['-']
    | c :: d :: _ => if !isBreak c then ['-'] else if isBreak d then ['+'] else []
  indentation ++ chomping

/-- A text as a literal block. -/
def literalText (indent : Nat) (cs : List Char) : List Char :=
  ['|'] ++ literalHints cs ++ ['\n'] ++ indented indent true cs

/-- A text in its style; `indent` is the indentation of further lines. -/
def scalarText (indent : Nat) (s : String) : String :=
  let cs := s.toList
  String.ofList (match styleOf s with
    | .plain => cs
    | .singleQuoted => singleQuotedText indent cs
    | .doubleQuoted => doubleQuotedText cs
    | .literal => literalText indent cs)

end ApiPlatform.Yaml
