import GroupInterfaces.Schema.Group
import GroupInterfaces.Xml.Markup

/-!
# Schema fragments

A group declaration is shown as the fragment of a schema that declares it. Names stand
without their namespaces.
-/

namespace GroupInterfaces

/-- The attributes for the bounds of occurrence that are not one. -/
def Occurs.attributes (o : Occurs) : List (String × String) :=
  (if o.min = 1 then [] else [("minOccurs", toString o.min.toNat)])
    ++ match o.max with
      | .bounded n => if n = 1 then [] else [("maxOccurs", toString n.toNat)]
      | .unbounded => [("maxOccurs", "unbounded")]

/-- The attribute for the name of a type. -/
def typeAttribute : Option QName → List (String × String)
  | some type => [("type", type.localName)]
  | none => []

/-- The attribute for a fixed value. -/
def fixedAttribute : Option String → List (String × String)
  | some value => [("fixed", value)]
  | none => []

/-- The element of a compositor with attributes, around the elements of its particles. -/
def Compositor.fragment (c : Compositor) (attributes : List (String × String))
    (content : List Xml.Markup) : Xml.Markup :=
  if content.isEmpty then .leaf ("xs:" ++ c.schemaName) attributes
  else .branch ("xs:" ++ c.schemaName) attributes content

namespace Particle

mutual

/-- The element of a particle. -/
def fragment : Particle → Xml.Markup
  | .element o d =>
    .leaf "xs:element"
      ([("name", d.name.localName)] ++ typeAttribute d.typeName ++ fixedAttribute d.fixedValue
        ++ o.attributes)
  | .groupRef o name => .leaf "xs:group" ([("ref", name.localName)] ++ o.attributes)
  | .group o compositor particles => compositor.fragment o.attributes (fragments particles)
  | .wildcard o => .leaf "xs:any" o.attributes

/-- The elements of particles. -/
def fragments : List Particle → List Xml.Markup
  | [] => []
  | p :: rest => fragment p :: fragments rest

end

end Particle

/-- The element of a compositor that is the body of a group. -/
def ModelGroup.fragment (g : ModelGroup) : Xml.Markup :=
  g.compositor.fragment [] (Particle.fragments g.particles)

/-- The element of the use of an attribute. -/
def AttributeUse.fragment (u : AttributeUse) : Xml.Markup :=
  .leaf "xs:attribute"
    ([("name", u.decl.name.localName)] ++ typeAttribute u.decl.typeName
      ++ (if u.required then [("use", "required")] else [])
      ++ fixedAttribute (u.fixedValue.or u.decl.fixedValue))

/-- The element of a group declaration. -/
def GroupDecl.fragment : GroupDecl → Xml.Markup
  | .model d => .branch "xs:group" [("name", d.name.localName)] [d.group.fragment]
  | .attribute d =>
    let content :=
      d.attributeUses.map AttributeUse.fragment
        ++ d.attributeGroups.map fun name => .leaf "xs:attributeGroup" [("ref", name.localName)]
    if content.isEmpty then .leaf "xs:attributeGroup" [("name", d.name.localName)]
    else .branch "xs:attributeGroup" [("name", d.name.localName)] content

end GroupInterfaces
