import GroupInterfaces.Outline.TypeRef
import GroupInterfaces.SortedMap

/-!
# Compiled types

An environment is the set of the types that are compiled already, by qualified name. Only
such types can be implemented without being declared.
-/

namespace GroupInterfaces

/-- Sets of qualified names. -/
structure Environment where
  names : SortedMap String Unit := {}
deriving DecidableEq, Inhabited

namespace Environment

/-- The environment with one more name. -/
def add (e : Environment) (qualifiedName : String) : Environment :=
  ⟨e.names.insert qualifiedName ()⟩

/-- The environment of a list of names. -/
def ofList (names : List String) : Environment := names.foldl add {}

/-- The environment has the type. -/
def contains (e : Environment) (t : TypeRef) : Bool := e.names.contains t.qualifiedName

/-- The names in order. -/
def toList (e : Environment) : List String := e.names.keys

/-- The number of names. -/
def size (e : Environment) : Nat := e.names.size

end Environment

end GroupInterfaces
