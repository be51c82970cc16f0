import IconImports.Entry
import IconImports.ModuleId
import IconImports.OrderedMap

/-!
# The registry

A `Registry` keeps the entries of all redirected statements under their identifiers, in the order of
registration. `Registry.register` stores an entry under the numeral of the number of entries, until
every identifier is in use.

Storing under an identifier that is there already would replace an entry. Registering never does so,
as long as the identifiers in use are the numerals of the places of their entries.
-/

namespace IconImports

inductive RedirectError
  /-- In the source called `unit`, an item of an import list starts with no name. -/
  | invalidImport (unit piece : String)
  | idSpaceExhausted
  deriving DecidableEq

def RedirectError.message : RedirectError → String
  | invalidImport unit piece => s!"Invalid import in {unit}: `{piece}`"
  | idSpaceExhausted =>
    s!"Identifier space exhausted after {ModuleId.capacity} import statements"

/-- The entries registered so far, each under its identifier. -/
structure Registry where
  entries : OrderedMap ModuleId Entry

namespace Registry

def empty : Registry := ⟨∅⟩

instance : EmptyCollection Registry := ⟨empty⟩

def size (r : Registry) : Nat := r.entries.size

def get? (r : Registry) (id : String) : Option Entry := r.entries.get? ⟨id⟩

def contains (r : Registry) (id : String) : Bool := r.entries.contains ⟨id⟩

def toList (r : Registry) : List (ModuleId × Entry) := r.entries.toList

def ensureCapacity (r : Registry) (count : Nat) : Except RedirectError Unit :=
  if ModuleId.capacity < r.size + count then .error .idSpaceExhausted else .ok ()

def nextId (r : Registry) : Except RedirectError ModuleId :=
  match ModuleId.ofIndex? r.size with
  | none => .error .idSpaceExhausted
  | some id => .ok id

def store (r : Registry) (id : ModuleId) (entry : Entry) : Registry :=
  ⟨r.entries.insert id entry⟩

def register (r : Registry) (entry : Entry) : Except RedirectError (ModuleId × Registry) := do
  let id ← r.nextId
  return (id, r.store id entry)

end Registry

end IconImports
