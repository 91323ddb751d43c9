import GroupInterfaces.Interface.Basic
import GroupInterfaces.Outline.Basic
import GroupInterfaces.Schema.Structure

/-!
# Supertypes

The interface of a group extends the interfaces of the groups that the group uses: those of
the same run and kind, else those published by another episode. Other groups have no
interface to extend.
-/

namespace GroupInterfaces

/-- The interface to extend for a group. -/
def supertype? (set : InterfaceSet) (index : Episode.Index) (group : QName) :
    Option Supertype :=
  match set.get? group with
  | some i => some (.synthesized i.typeRef)
  | none => (index.get? group).map .published

/-- The interfaces to extend for the groups that a group uses, in order. -/
def SynthesizedInterface.resolvedSupertypes (i : SynthesizedInterface) (set : InterfaceSet)
    (index : Episode.Index) : List Supertype :=
  i.declaration.groupStructure.groupRefs.filterMap (supertype? set index)

/-- The interfaces with the interfaces that they extend. -/
def InterfaceSet.link (set : InterfaceSet) (index : Episode.Index) : InterfaceSet :=
  set.mapValues fun i =>
    { i with supertypes := (i.resolvedSupertypes set index).foldl addNew i.supertypes }

/-- The outline in which an interface extends others. -/
def Outline.extend (o : Outline) (t : TypeRef) (supertypes : List Supertype) : Outline :=
  supertypes.foldl (fun o s => o.modifyInterface t (·.addSupertype s.typeRef)) o

/-- The outline in which all interfaces of a set extend what they should. -/
def Outline.link (o : Outline) (set : InterfaceSet) (index : Episode.Index) : Outline :=
  set.values.foldl (fun o i => o.extend i.typeRef (i.resolvedSupertypes set index)) o

end GroupInterfaces
