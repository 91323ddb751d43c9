import GroupInterfaces.Schema.QName

/-!
# Content of types and groups

The content of a complex type or of a model group is a tree of particles. A particle says
how often its term may occur; the term is an element, a reference to a model group, a
compositor over further particles, or a wildcard.
-/

namespace GroupInterfaces

/-- What a schema author asks of the binding of a component. -/
structure Customization where
  propertyName : Option String := none
deriving DecidableEq, Inhabited

/-- Declarations of elements. -/
structure ElementDecl where
  name : QName
  typeName : Option QName := none
  fixedValue : Option String := none
  customization : Option Customization := none
  locator : Locator := {}
deriving DecidableEq, Inhabited

/-- Declarations of attributes. -/
structure AttributeDecl where
  name : QName
  typeName : Option QName := none
  fixedValue : Option String := none
  customization : Option Customization := none
deriving DecidableEq, Inhabited

/-- The use of an attribute within a group or type. Its fixed value and its customization
come before those of the declaration. -/
structure AttributeUse where
  decl : AttributeDecl
  required : Bool := false
  fixedValue : Option String := none
  customization : Option Customization := none
  locator : Locator := {}
deriving DecidableEq, Inhabited

/-- Upper bounds of occurrence. -/
inductive MaxOccurs where
  | bounded (n : UInt32)
  | unbounded
deriving DecidableEq

instance : Inhabited MaxOccurs := ⟨.bounded 1⟩

/-- How often a term may occur. -/
structure Occurs where
  min : UInt32 := 1
  max : MaxOccurs := .bounded 1
deriving DecidableEq, Inhabited

/-- More than one occurrence is allowed. -/
def Occurs.isRepeated (o : Occurs) : Bool :=
  match o.max with
  | .unbounded => true
  | .bounded n => 1 < n

/-- The ways of putting particles together. -/
inductive Compositor where
  | sequence
  | choice
  | all
deriving DecidableEq, Inhabited

/-- The name of a compositor in a schema. -/
def Compositor.schemaName : Compositor → String
  | .sequence => "sequence"
  | .choice => "choice"
  | .all => "all"

/-- Particles of a content model. -/
inductive Particle where
  | element (occurs : Occurs) (decl : ElementDecl)
  | groupRef (occurs : Occurs) (name : QName)
  | group (occurs : Occurs) (compositor : Compositor) (particles : List Particle)
  | wildcard (occurs : Occurs)
deriving Inhabited

/-- How often the particle may occur. -/
def Particle.occurs : Particle → Occurs
  | .element o _ => o
  | .groupRef o _ => o
  | .group o _ _ => o
  | .wildcard o => o

/-- The particle may occur more than once. -/
def Particle.isRepeated (p : Particle) : Bool := p.occurs.isRepeated

/-- Particles under one compositor, as the body of a named group. -/
structure ModelGroup where
  compositor : Compositor := .sequence
  particles : List Particle := []
deriving Inhabited

/-- What a type contains. -/
inductive ContentType where
  | particle (p : Particle)
  | simple
  | empty
deriving Inhabited

/-- The particle of a content that has one. -/
def ContentType.particle? : ContentType → Option Particle
  | .particle p => some p
  | _ => none

/-- Complex types; an anonymous type has no name. -/
structure ComplexType where
  name : Option QName := none
  explicitContent : Option ContentType := none
  content : ContentType
  attributeGroups : List QName := []
deriving Inhabited

/-- The content a type is read by: the one written in its definition, if there is one, else
the one it has after derivation. -/
def ComplexType.contentRoot (t : ComplexType) : ContentType :=
  t.explicitContent.getD t.content

end GroupInterfaces
