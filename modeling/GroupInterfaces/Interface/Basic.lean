import GroupInterfaces.Episode.Index
import GroupInterfaces.Outline.Member
import GroupInterfaces.Schema.Group

/-!
# Synthesized interfaces

The interface of a group takes the place of the class that was generated as a placeholder
for the group, under the same name.
-/

namespace GroupInterfaces

/-- Interfaces that others extend: those of the same run, and those published by another
episode. -/
inductive Supertype where
  | synthesized (typeRef : TypeRef)
  | published (interface : PublishedInterface)
deriving DecidableEq, Inhabited

/-- The interface by its type. -/
def Supertype.typeRef : Supertype → TypeRef
  | .synthesized t => t
  | .published i => i.typeRef

/-- Interfaces synthesized for groups. -/
structure SynthesizedInterface where
  declaration : GroupDecl
  typeRef : TypeRef
  placeholder : TypeRef
  supertypes : List Supertype := []
  publishedFields : List Field := []
deriving Inhabited

/-- The name of the group. -/
def SynthesizedInterface.name (i : SynthesizedInterface) : QName := i.declaration.name

/-- Synthesized interfaces of one kind by the names of their groups. -/
abbrev InterfaceSet : Type := SortedMap QName SynthesizedInterface

/-- The interfaces by the names of their groups. -/
def InterfaceSet.ofInterfaces (is : List SynthesizedInterface) : InterfaceSet :=
  .ofList (is.map fun i => (i.name, i))

end GroupInterfaces
