/-!
# References to types

A type of the generated code is known by its package and its name. The name of a nested
type begins with that of the type around it and a dot. A qualified name is split at its last
dot, so a reference to a nested type is not the one that its qualified name splits into.
-/

namespace GroupInterfaces

/-- References to types. -/
structure TypeRef where
  package : String
  name : String
deriving DecidableEq, Inhabited

namespace TypeRef

/-- The name behind the last dot of a qualified name, and the package in front of it. A name
without a dot is in the unnamed package. -/
def ofQualifiedName (qualified : String) : TypeRef :=
  let cs := qualified.toList
  let name := (cs.reverse.takeWhile (· ≠ '.')).reverse
  { package := .ofList (cs.take (cs.length - name.length - 1)), name := .ofList name }

/-- The package and the name with a dot between them. -/
def qualifiedName (t : TypeRef) : String :=
  if t.package = "" then t.name else t.package ++ "." ++ t.name

/-- The type with a name within a type. -/
def nested (t : TypeRef) (name : String) : TypeRef :=
  { package := t.package, name := t.name ++ "." ++ name }

end TypeRef

end GroupInterfaces
