/-!
# JSON values

The tree that every exchanged document is made of: stored objects, request bodies, templates and
rendered pages.  Entries of an object keep the order in which they were written.
-/

namespace ApiPlatform

/-- A JSON value.  Whole numbers are exact; every other number is a finite double, held by its
IEEE 754 bits so that equality is decidable. -/
inductive Json where
  | null
  | bool (b : Bool)
  | int (n : Int)
  | double (bits : UInt64)
  | str (s : String)
  | arr (items : List Json)
  | obj (entries : List (String × Json))
  deriving Repr, Inhabited, BEq

namespace Json

/-- The value of an entry of an object; absent for every other value. -/
def field? (key : String) : Json → Option Json
  | .obj entries => entries.lookup key
  | _ => none

mutual

/-- Changes every string leaf; keys and all other leaves stay. -/
def mapStrings (f : String → String) : Json → Json
  | .str s => .str (f s)
  | .arr items => .arr (mapStringsInItems f items)
  | .obj entries => .obj (mapStringsInEntries f entries)
  | .null => .null
  | .bool b => .bool b
  | .int n => .int n
  | .double bits => .double bits

def mapStringsInItems (f : String → String) : List Json → List Json
  | [] => []
  | item :: rest => mapStrings f item :: mapStringsInItems f rest

def mapStringsInEntries (f : String → String) : List (String × Json) → List (String × Json)
  | [] => []
  | (key, value) :: rest => (key, mapStrings f value) :: mapStringsInEntries f rest

end

/-- Writes an entry over one of the same key, or else as a new last entry. -/
def setEntry (key : String) (value : Json) : List (String × Json) → List (String × Json)
  | [] => [(key, value)]
  | (k, v) :: rest => if k = key then (key, value) :: rest else (k, v) :: setEntry key value rest

mutual

/-- JSON merge patch: an object patch is applied entry by entry, `null` deletes the entry, and
any other patch replaces the target. -/
def mergePatch (target : Json) : Json → Json
  | .obj patch =>
    match target with
    | .obj entries => .obj (mergeEntries entries patch)
    | _ => .obj (mergeEntries [] patch)
  | .null => .null
  | .bool b => .bool b
  | .int n => .int n
  | .double bits => .double bits
  | .str s => .str s
  | .arr items => .arr items

/-- Applies the entries of a merge patch from left to right. -/
def mergeEntries (entries : List (String × Json)) : List (String × Json) → List (String × Json)
  | [] => entries
  | (key, .null) :: rest => mergeEntries (entries.filter (·.1 ≠ key)) rest
  | (key, change) :: rest =>
    mergeEntries
      (setEntry key (mergePatch ((entries.lookup key).getD .null) change) entries) rest

end

end Json

end ApiPlatform
