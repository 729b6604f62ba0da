import ApiPlatform.Store.Error
/-!
# Store programs

A computation that talks to a store, as the tree of its calls and of what it does with each
answer.  A program knows nothing of the store that runs it, so one program serves every store and
the calls of several programs can be interleaved.
-/

namespace ApiPlatform

/-- A computation that reads and writes stored objects and ends with an `α`. -/
inductive StoreProgram (α : Type) where
  | done (a : α)
  | get (k : Kind) («namespace» name : String)
      (next : Except StoreError (Option k.Object) → StoreProgram α)
  | create (k : Kind) (o : k.Object) (next : Except StoreError k.Object → StoreProgram α)
  | update (k : Kind) (o : k.Object) (next : Except StoreError k.Object → StoreProgram α)

namespace StoreProgram

variable {α β : Type}

/-- Goes on with the result of a program. -/
def bind (f : α → StoreProgram β) : StoreProgram α → StoreProgram β
  | .done a => f a
  | .get k ns name next => .get k ns name fun answer => bind f (next answer)
  | .create k o next => .create k o fun answer => bind f (next answer)
  | .update k o next => .update k o fun answer => bind f (next answer)

instance : Monad StoreProgram where
  pure := .done
  bind p f := bind f p

/-- Changes every object that the program is given by a read. -/
def mapReads (f : (k : Kind) → k.Object → k.Object) : StoreProgram α → StoreProgram α
  | .done a => .done a
  | .get k ns name next =>
    .get k ns name fun answer => mapReads f (next (answer.map (Option.map (f k))))
  | .create k o next => .create k o fun answer => mapReads f (next answer)
  | .update k o next => .update k o fun answer => mapReads f (next answer)

end StoreProgram

/-- A store program that can fail. -/
abbrev StoreM (ε α : Type) := ExceptT ε StoreProgram α

namespace StoreM

/-- Reads an object; absent if there is none. -/
def get (k : Kind) («namespace» name : String) : StoreM StoreError (Option k.Object) :=
  ExceptT.mk (.get k «namespace» name .done)

def create (k : Kind) (o : k.Object) : StoreM StoreError k.Object :=
  ExceptT.mk (.create k o .done)

def update (k : Kind) (o : k.Object) : StoreM StoreError k.Object :=
  ExceptT.mk (.update k o .done)

/-- A result that needs no store. -/
def ofExcept {ε α : Type} (r : Except ε α) : StoreM ε α := ExceptT.mk (.done r)

/-- Turns errors of one type into errors of another one. -/
def mapError {ε δ α : Type} (f : ε → δ) (p : StoreM ε α) : StoreM δ α := p.adapt f

end StoreM

def Kind.namespaceOf (k : Kind) (o : k.Object) : Except StoreError String :=
  match (k.metadata o).namespace with
  | some ns => .ok ns
  | none => .error (.missingNamespace k (k.objectName o))

def Kind.storeKey (k : Kind) (o : k.Object) : Except StoreError StoreKey :=
  (k.namespaceOf o).map fun ns => { kind := k, «namespace» := ns, name := k.objectName o }

end ApiPlatform
