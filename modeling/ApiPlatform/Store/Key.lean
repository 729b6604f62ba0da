import ApiPlatform.Resource.Kind
/-!
# Store keys and calls

Objects are stored under their kind, namespace and name.  A call is one operation on one key.
-/

namespace ApiPlatform

/-- The identity of a stored object. -/
structure StoreKey where
  kind : Kind
  «namespace» : String
  name : String
  deriving DecidableEq, Inhabited

namespace StoreKey

/-- Kind, namespace and name in words. -/
def text (k : StoreKey) : String := s!"{k.kind.name} {k.namespace}/{k.name}"

/-- Keys are listed by the name of the kind, then by namespace, then by name. -/
instance : Ord StoreKey where
  compare := compareLex (compareOn (·.kind.name))
    (compareLex (compareOn (·.namespace)) (compareOn (·.name)))

instance : Std.TransOrd StoreKey :=
  inferInstanceAs (Std.TransCmp (compareLex (compareOn _)
    (compareLex (compareOn _) (compareOn _))))

instance : Std.LawfulEqOrd StoreKey where
  eq_of_compare {a b} h := by
    obtain ⟨k, ns, n⟩ := a
    obtain ⟨k', ns', n'⟩ := b
    simp only [compare, compareLex, compareOn, Ordering.then_eq_eq] at h
    obtain ⟨hk, hns, hn⟩ := h
    have hk : k.name = k'.name := Std.LawfulEqOrd.eq_of_compare hk
    have hns : ns = ns' := Std.LawfulEqOrd.eq_of_compare hns
    have hn : n = n' := Std.LawfulEqOrd.eq_of_compare hn
    rw [Kind.name_injective hk, hns, hn]

end StoreKey

/-- What a store can be asked to do. -/
inductive Operation where
  | get
  | create
  | update
  deriving DecidableEq, Repr

namespace Operation

def all : List Operation := [.get, .create, .update]

def name : Operation → String
  | .get => "get"
  | .create => "create"
  | .update => "update"

def ofName? (s : String) : Option Operation := all.find? (·.name = s)

end Operation

/-- An operation on a key. -/
structure StoreCall where
  operation : Operation
  key : StoreKey
  deriving DecidableEq

/-- Operation and key in words. -/
def StoreCall.text (c : StoreCall) : String := s!"{c.operation.name} {c.key.text}"

end ApiPlatform
