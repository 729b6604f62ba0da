/-!
# Placeholders

A text refers to a parameter by a dollar sign and the parameter's name in braces.  Names consist
of upper case letters, digits and underscores.  Substitution goes once from left to right, so
text that was put in is never read again.
-/

namespace ApiPlatform.Placeholder

/-- Whether a character may stand in a name. -/
def isNameChar (c : Char) : Bool :=
  ('A' ≤ c && c ≤ 'Z') || ('0' ≤ c && c ≤ '9') || c = '_'

/-- The text that refers to a parameter. -/
def text (name : String) : String := "$\x7b" ++ name ++ "\x7d"

/-- The name in the reference that a text starts with. -/
def leading? : List Char → Option (List Char)
  | '$' :: '{' :: rest =>
    let name := rest.takeWhile isNameChar
    match rest.drop name.length with
    | '}' :: _ => if name.isEmpty then none else some name
    | _ => none
  | _ => none

/-- Replaces references from left to right; `skip` counts characters of the reference that was
replaced last.  A reference to which `value?` gives nothing stays. -/
def replaceChars (value? : String → Option String) : Nat → List Char → List Char
  | _, [] => []
  | skip + 1, _ :: rest => replaceChars value? skip rest
  | 0, c :: rest =>
    match leading? (c :: rest) with
    | none => c :: replaceChars value? 0 rest
    | some name =>
      match value? (String.ofList name) with
      | some value => value.toList ++ replaceChars value? (name.length + 2) rest
      | none => c :: replaceChars value? 0 rest

/-- The text with every reference that has a value replaced by it. -/
def replace (value? : String → Option String) (s : String) : String :=
  String.ofList (replaceChars value? 0 s.toList)

end ApiPlatform.Placeholder
