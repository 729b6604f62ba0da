import ApiPlatform.Decimal.Text
import ApiPlatform.Json.Basic
import ApiPlatform.Yaml.Scalar
/-!
# YAML documents

JSON values as YAML in block style.  Nested values are indented by two, but a list under a key
stands at the indentation of the key.  Empty lists and objects are written inline.  A key that is
long or has several lines is written behind a question mark.
-/

namespace ApiPlatform.Yaml

/-- The longest key, in bytes, that stands right before its colon. -/
def simpleKeyLimit : Nat := 128

/-- Whether a key stands right before its colon. -/
def isSimpleKey (key : String) : Bool :=
  key.utf8ByteSize ≤ simpleKeyLimit && !key.toList.any isBreak

def spaces (n : Nat) : String := String.ofList (List.replicate n ' ')

/-- A text with a line feed behind it, unless it ends a line already. -/
def closed (s : String) : String :=
  if s.toList.getLast?.any isBreak then s else s ++ "\n"

/-- Items one below the other at an indentation; the first one stands where the text starts. -/
def stacked (indent : Nat) : List String → String
  | [] => ""
  | [item] => item
  | item :: rest => closed item ++ spaces indent ++ stacked indent rest

mutual

/-- A value where its first line may start right away; `indent` is the indentation of its further
lines. -/
def nodeText (indent : Nat) : Json → String
  | .null => "null"
  | .bool true => "true"
  | .bool false => "false"
  | .int n => toString n
  | .double bits => (Decimal.ofBits? bits).getD ".nan"
  | .str s => scalarText indent s
  | .arr [] => "[]"
  | .arr (item :: rest) => stacked indent (itemTexts indent (item :: rest))
  | .obj [] => "\x7b\x7d"
  | .obj (entry :: rest) => stacked indent (entryTexts indent (entry :: rest))

/-- The items of a list whose dashes have an indentation. -/
def itemTexts (indent : Nat) : List Json → List String
  | [] => []
  | item :: rest => ("- " ++ nodeText (indent + indentStep) item) :: itemTexts indent rest

/-- A value behind a key and a colon; `indent` is the indentation of the key. -/
def valueText (indent : Nat) : Json → String
  | .arr (item :: rest) => "\n" ++ spaces indent ++ stacked indent (itemTexts indent (item :: rest))
  | .obj (entry :: rest) =>
    "\n" ++ spaces (indent + indentStep) ++
      stacked (indent + indentStep) (entryTexts (indent + indentStep) (entry :: rest))
  | .null => " null"
  | .bool true => " true"
  | .bool false => " false"
  | .int n => " " ++ toString n
  | .double bits => " " ++ (Decimal.ofBits? bits).getD ".nan"
  | .str s => " " ++ scalarText (indent + indentStep) s
  | .arr [] => " []"
  | .obj [] => " \x7b\x7d"

/-- The entries of an object whose keys have an indentation. -/
def entryTexts (indent : Nat) : List (String × Json) → List String
  | [] => []
  | (key, value) :: rest =>
    let keyText := scalarText (indent + indentStep) key
    let entry :=
      if isSimpleKey key then keyText ++ ":" ++ valueText indent value
      else
        closed ("? " ++ keyText) ++ spaces indent ++ ": " ++ nodeText (indent + indentStep) value
    entry :: entryTexts indent rest

end

/-- The line that starts a document. -/
def documentStart : String := "---\n"

/-- A value as a document; a text alone has its further lines indented by two. -/
def body (j : Json) : String :=
  closed (match j with
    | .str s => scalarText indentStep s
    | j => nodeText 0 j)

/-- A document, with or without the line that starts it. -/
def document (explicitStart : Bool) (j : Json) : String :=
  (if explicitStart then documentStart else "") ++ body j

/-- Several values as one stream of documents. -/
def stream (values : List Json) : String := String.join (values.map (document true))

end ApiPlatform.Yaml
