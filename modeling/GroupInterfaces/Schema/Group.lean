import GroupInterfaces.Schema.Content

/-!
# Group declarations

A schema declares two kinds of named groups, model groups and attribute groups. A schema
set holds all declarations of both kinds in the order of the schemas.
-/

namespace GroupInterfaces

/-- The two kinds of groups. -/
inductive GroupKind where
  | modelGroup
  | attributeGroup
deriving DecidableEq, Inhabited

/-- Declarations of model groups. -/
structure ModelGroupDecl where
  name : QName
  group : ModelGroup
  locator : Locator := {}
deriving Inhabited

/-- Declarations of attribute groups; `attributeGroups` are the groups included by name. -/
structure AttributeGroupDecl where
  name : QName
  attributeUses : List AttributeUse := []
  attributeGroups : List QName := []
  locator : Locator := {}
deriving Inhabited

/-- Declarations of groups of either kind. -/
inductive GroupDecl where
  | model (decl : ModelGroupDecl)
  | attribute (decl : AttributeGroupDecl)
deriving Inhabited

namespace GroupDecl

/-- The name of the group. -/
def name : GroupDecl → QName
  | .model d => d.name
  | .attribute d => d.name

/-- The kind of the group. -/
def kind : GroupDecl → GroupKind
  | .model _ => .modelGroup
  | .attribute _ => .attributeGroup

/-- The place of the declaration. -/
def locator : GroupDecl → Locator
  | .model d => d.locator
  | .attribute d => d.locator

end GroupDecl

/-- The groups of the schemas that are compiled together. -/
structure SchemaSet where
  modelGroups : List ModelGroupDecl := []
  attributeGroups : List AttributeGroupDecl := []
deriving Inhabited

namespace SchemaSet

/-- The declarations of one kind, in order. -/
def declarations (s : SchemaSet) : GroupKind → List GroupDecl
  | .modelGroup => s.modelGroups.map .model
  | .attributeGroup => s.attributeGroups.map .attribute

/-- The place where a group is declared: that of the first model group of the name, else
that of the first attribute group. -/
def locatorOf? (s : SchemaSet) (name : QName) : Option Locator :=
  match s.modelGroups.find? (·.name = name) with
  | some d => some d.locator
  | none => (s.attributeGroups.find? (·.name = name)).map (·.locator)

end SchemaSet

end GroupInterfaces
