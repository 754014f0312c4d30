import StructSync.Reconcile

/-!
# The registry

A registry keeps one materialized descriptor for each definition. A definition is known by the path
of its type; the name of its struct is given or taken from that path.
-/

namespace StructSync

/-- A struct that is declared under a type. -/
structure Definition where
  /-- the type with its module path and its arguments -/
  typePath : String
  /-- the name of the struct, if it is not that of the type -/
  name? : Option String
  fields : List Field
deriving DecidableEq

/-- What follows the last `::` of the text; `acc` is what has been passed since then. -/
def afterLastColons (acc : List Char) : List Char → List Char
  | ':' :: ':' :: rest => afterLastColons [] rest
  | c :: rest => afterLastColons (acc ++ [c]) rest
  | [] => acc

/-- The name of the type at that path: no module before it and no arguments behind it. -/
def shortTypeName (path : String) : String :=
  String.ofList (afterLastColons [] (path.toList.takeWhile (· ≠ '<')))

/-- The name of the definition's struct. -/
def Definition.structName (d : Definition) : String := d.name?.getD (shortTypeName d.typePath)

/-- The descriptors materialized so far, by the path of their type. -/
structure Registry where
  entries : List (String × Descriptor)
deriving DecidableEq

namespace Registry

def empty : Registry := ⟨[]⟩

def get? (r : Registry) (typePath : String) : Option Descriptor := r.entries.lookup typePath

def contains (r : Registry) (typePath : String) : Bool := (r.get? typePath).isSome

def size (r : Registry) : Nat := r.entries.length

def isEmpty (r : Registry) : Bool := r.entries.isEmpty

variable {m : Type → Type} [Monad m] {σ : Type} [Host σ]

/-- The descriptor of the definition: the one kept, or else one that is built and kept. If that
fails nothing is kept. -/
def getOrMaterialize (confirm : Confirmer m) (definition : Definition) (r : Registry) (host : σ) :
    m (Logged ((Except SyncError Descriptor × Registry) × σ)) := do
  match r.get? definition.typePath with
  | some d => return pure ((.ok d, r), host)
  | none =>
    let name := definition.structName
    let built ← Descriptor.build confirm name definition.fields host
    return do
      Logged.note .debug .registry ("Initializing '" ++ name ++ "'")
      match ← built with
      | (.error e, host) => return ((.error e, r), host)
      | (.ok (d, _), host) =>
        return ((.ok d, ⟨r.entries ++ [(definition.typePath, d)]⟩), host)

end Registry

end StructSync
