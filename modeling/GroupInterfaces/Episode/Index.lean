import GroupInterfaces.Environment
import GroupInterfaces.Episode.Binding

/-!
# Indexes of published interfaces

An index answers which interface was published for a group. Whether that interface is
compiled already, so that classes can implement it, is decided once when the index is made.
-/

namespace GroupInterfaces

/-- Whether a published interface is among the compiled types. -/
inductive Availability where
  | compiled
  | missing
deriving DecidableEq, Inhabited

/-- Interfaces published by another episode. -/
structure PublishedInterface where
  typeRef : TypeRef
  availability : Availability
deriving DecidableEq, Inhabited

namespace PublishedInterface

/-- The published interface of a type as an environment has it. -/
def resolve (typeRef : TypeRef) (environment : Environment) : PublishedInterface :=
  { typeRef, availability := if environment.contains typeRef then .compiled else .missing }

/-- The interface, if it is compiled. -/
def compiled? (i : PublishedInterface) : Option TypeRef :=
  match i.availability with
  | .compiled => some i.typeRef
  | .missing => none

end PublishedInterface

namespace Episode

/-- The published interfaces by the groups that they stand for. -/
abbrev Index : Type := SortedMap QName PublishedInterface

/-- The index of bindings. The last binding of a group wins. -/
def Index.ofBindings (bindings : List Binding) (environment : Environment) : Index :=
  .ofList <| bindings.map fun b =>
    (b.component, .resolve (.ofQualifiedName b.interface) environment)

end Episode

end GroupInterfaces
