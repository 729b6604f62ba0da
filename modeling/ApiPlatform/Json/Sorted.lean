import ApiPlatform.Collections.SortedMap
import ApiPlatform.Json.Basic
/-!
# Key order

Every object of a value with its entries in the order of their keys.  Two values that differ in
the order of entries alone have the same ordered form.
-/

namespace ApiPlatform.Json

mutual

/-- The value with the entries of every object in key order; of several of one key the last
stays. -/
def sorted : Json → Json
  | .null => .null
  | .bool b => .bool b
  | .int n => .int n
  | .double bits => .double bits
  | .str s => .str s
  | .arr items => .arr (sortedItems items)
  | .obj entries => .obj (SortedMap.ofList (sortedEntries entries)).entries

def sortedItems : List Json → List Json
  | [] => []
  | item :: rest => sorted item :: sortedItems rest

/-- `sorted` on each entry's value. -/
def sortedEntries : List (String × Json) → List (String × Json)
  | [] => []
  | (key, value) :: rest => (key, sorted value) :: sortedEntries rest

end

end ApiPlatform.Json
