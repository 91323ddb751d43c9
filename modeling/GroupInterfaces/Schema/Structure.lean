import GroupInterfaces.Naming
import GroupInterfaces.Schema.Group

/-!
# Structure of groups

A group has members, which are its elements or attributes, and it uses further groups. A
model group uses the groups that are referred to from its body without passing a particle
that may be repeated; a complex type uses groups by the same rule, with its content root for
the body.
-/

namespace GroupInterfaces

/-- The two kinds of members. -/
inductive MemberKind where
  | element
  | attribute
deriving DecidableEq, Inhabited

/-- Members of groups. Those with a fixed value are not published. -/
structure Member where
  kind : MemberKind
  name : QName
  propertyName : String
  fixed : Bool
  locator : Locator
deriving DecidableEq, Inhabited

/-- The members of a group and the groups that it uses. -/
structure GroupStructure where
  members : List Member := []
  groupRefs : List QName := []
deriving DecidableEq, Inhabited

/-- The members that are published. -/
def GroupStructure.variableMembers (s : GroupStructure) : List Member :=
  s.members.filter (! ·.fixed)

/-- The groups that a complex type uses. -/
structure ContentGroups where
  attributeGroups : List QName := []
  modelGroups : List QName := []
deriving DecidableEq, Inhabited

/-- The property name that a schema author asks for. -/
def customName? (c : Option Customization) : Option String := c.bind (·.propertyName)

/-- The member of an element. -/
def ElementDecl.member (d : ElementDecl) : Member where
  kind := .element
  name := d.name
  propertyName := (customName? d.customization).getD (Naming.propertyName d.name.localName)
  fixed := d.fixedValue.isSome
  locator := d.locator

/-- The member of the use of an attribute. -/
def AttributeUse.member (u : AttributeUse) : Member where
  kind := .attribute
  name := u.decl.name
  propertyName :=
    ((customName? u.customization).or (customName? u.decl.customization)).getD
      (Naming.propertyName u.decl.name.localName)
  fixed := u.fixedValue.isSome || u.decl.fixedValue.isSome
  locator := u.locator

/-- The element that a particle is. -/
def Particle.element? : Particle → Option ElementDecl
  | .element _ d => some d
  | _ => none

namespace Particle

mutual

/-- The groups that a particle uses. -/
def groupRefs (p : Particle) : List QName :=
  match p with
  | .groupRef o name => if o.isRepeated then [] else [name]
  | .group o _ particles => if o.isRepeated then [] else groupRefsOf particles
  | .element _ _ | .wildcard _ => []

/-- The groups that particles use. -/
def groupRefsOf : List Particle → List QName
  | [] => []
  | p :: rest => groupRefs p ++ groupRefsOf rest

end

end Particle

/-- The structure of a group. -/
def GroupDecl.groupStructure : GroupDecl → GroupStructure
  | .model d =>
    { members := d.group.particles.filterMap fun p => p.element?.map ElementDecl.member
      groupRefs := Particle.groupRefsOf d.group.particles }
  | .attribute d =>
    { members := d.attributeUses.map AttributeUse.member
      groupRefs := d.attributeGroups }

/-- The groups that a complex type uses. -/
def ComplexType.groups (t : ComplexType) : ContentGroups where
  attributeGroups := t.attributeGroups
  modelGroups := (t.contentRoot.particle?.map Particle.groupRefs).getD []

end GroupInterfaces
