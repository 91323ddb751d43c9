import GroupInterfaces.Outline.Member
import GroupInterfaces.Outline.TypeRef
import GroupInterfaces.Schema.Content
import GroupInterfaces.SortedMap
import GroupInterfaces.Text.Quoted

/-!
# Outlines of generated code

An outline is what a schema compiler has generated: packages with a slot for each type, and
the classes that were generated from schema components. A class occupies the slot of its
name in its package by its qualified name; an interface occupies its slot with its whole
declaration, in which further interfaces may be nested.
-/

namespace GroupInterfaces

/-! ### Classes -/

/-- The schema component that a class was generated from. A class for a group is only a
placeholder. -/
inductive SchemaComponent where
  | group (name : QName)
  | complexType (type : ComplexType)
  | element (name : QName) (type : Option ComplexType)
  | none
deriving Inhabited

/-- Generated classes. -/
structure GeneratedClass where
  package : String
  name : String
  component : SchemaComponent
  fields : List Field := []
  methods : List Method := []
  implements : List TypeRef := []
deriving Inhabited

namespace GeneratedClass

/-- The reference to the class. -/
def typeRef (c : GeneratedClass) : TypeRef := { package := c.package, name := c.name }

/-- The qualified name of the class. -/
def qualifiedName (c : GeneratedClass) : String := c.typeRef.qualifiedName

/-- The complex type that the class binds, if it binds one. -/
def complexType? (c : GeneratedClass) : Option ComplexType :=
  match c.component with
  | .complexType t => some t
  | .element _ t => t
  | .group _ | .none => .none

/-- The first method with a name and a number of parameters. -/
def findMethod? (c : GeneratedClass) (name : String) (arity : Nat) : Option Method :=
  c.methods.find? fun m => m.name = name ∧ m.params.length = arity

/-- The class was generated as the placeholder of a group. -/
def isPlaceholderOf (c : GeneratedClass) (group : QName) : Bool :=
  match c.component with
  | .group name => name = group
  | _ => false

end GeneratedClass

/-- The list with an element added at the end, unless it has it already. -/
def addNew [DecidableEq α] (as : List α) (a : α) : List α :=
  if a ∈ as then as else as ++ [a]

/-- The class with one more interface that it implements. -/
def GeneratedClass.addImplements (c : GeneratedClass) (t : TypeRef) : GeneratedClass :=
  { c with implements := addNew c.implements t }

/-! ### Interfaces -/

/-- Declarations of interfaces. Nested declarations are entries in the order of their
keys. -/
inductive InterfaceDecl where
  | mk (name package doc : String) (methods : List Method) (supertypes : List TypeRef)
    (nested : List (String × InterfaceDecl))
deriving Inhabited

namespace InterfaceDecl

/-- The name of the interface. -/
def name : InterfaceDecl → String
  | .mk name _ _ _ _ _ => name

/-- The package of the interface. -/
def package : InterfaceDecl → String
  | .mk _ package _ _ _ _ => package

/-- The documentation of the interface. -/
def doc : InterfaceDecl → String
  | .mk _ _ doc _ _ _ => doc

/-- The methods of the interface. -/
def methods : InterfaceDecl → List Method
  | .mk _ _ _ methods _ _ => methods

/-- The interfaces that the interface extends. -/
def supertypes : InterfaceDecl → List TypeRef
  | .mk _ _ _ _ supertypes _ => supertypes

/-- The entries of the interfaces nested in the interface. -/
def nested : InterfaceDecl → List (String × InterfaceDecl)
  | .mk _ _ _ _ _ nested => nested

/-- The interface without any members. -/
def new (package name : String) : InterfaceDecl := .mk name package "" [] [] []

/-- The interface with other documentation. -/
def withDoc (d : InterfaceDecl) (doc : String) : InterfaceDecl :=
  .mk d.name d.package doc d.methods d.supertypes d.nested

/-- The interface with more methods. -/
def addMethods (d : InterfaceDecl) (methods : List Method) : InterfaceDecl :=
  .mk d.name d.package d.doc (d.methods ++ methods) d.supertypes d.nested

/-- The interface with one more interface that it extends. -/
def addSupertype (d : InterfaceDecl) (t : TypeRef) : InterfaceDecl :=
  .mk d.name d.package d.doc d.methods (addNew d.supertypes t) d.nested

/-- The interface with other nested interfaces. -/
def withNested (d : InterfaceDecl) (nested : List (String × InterfaceDecl)) : InterfaceDecl :=
  .mk d.name d.package d.doc d.methods d.supertypes nested

/-- The first method with a name. -/
def findMethod? (d : InterfaceDecl) (name : String) : Option Method :=
  d.methods.find? (·.name = name)

/-- The interface nested under a key. -/
def nested? (d : InterfaceDecl) (key : String) : Option InterfaceDecl :=
  Entries.get? key d.nested

/-- The interface with the one nested under a key changed. -/
def modifyNested (d : InterfaceDecl) (key : String) (f : InterfaceDecl → InterfaceDecl) :
    InterfaceDecl :=
  d.withNested (Entries.modify key f d.nested)

end InterfaceDecl

/-! ### Packages -/

/-- The reasons for which an outline does not take a type. -/
inductive OutlineError where
  | typeExists (package name : String)
  | unknownPackage (name : String)
deriving DecidableEq

/-- The reason in words. -/
def OutlineError.message : OutlineError → String
  | .typeExists package name =>
    "type " ++ name ++ " already exists in package " ++ Text.quoted package
  | .unknownPackage name => "unknown package " ++ Text.quoted name

/-- The interface with one more nested in it, if the key is free. -/
def InterfaceDecl.declareNested (d : InterfaceDecl) (key : String) :
    Except OutlineError InterfaceDecl :=
  let name := d.name ++ "." ++ key
  if (d.nested? key).isSome then .error (.typeExists d.package name)
  else .ok (d.withNested (Entries.insert key (.new d.package name) d.nested))

/-- What occupies the slot of a type in a package. -/
inductive Slot where
  | class (qualifiedName : String)
  | interface (decl : InterfaceDecl)
deriving Inhabited

/-- The interface in a slot. -/
def Slot.interface? : Slot → Option InterfaceDecl
  | .interface d => some d
  | .class _ => none

/-- Packages. The namespace is the one that most schema components of the package have; the
object factory has methods that create the classes of the package. -/
structure Package where
  name : String
  space : Option String := none
  types : SortedMap String Slot := {}
  objectFactory : List Method := []
deriving Inhabited

namespace Package

/-- The slot of a name is occupied by that very class. -/
def holdsClass (p : Package) (c : GeneratedClass) : Bool :=
  match p.types.get? c.name with
  | some (.class qualifiedName) => qualifiedName = c.qualifiedName
  | _ => false

/-- The package without a class, if it holds that very class. -/
def removeClass (p : Package) (c : GeneratedClass) : Package :=
  if p.holdsClass c then { p with types := p.types.erase c.name } else p

/-- The package with a new interface, if the slot of its name is free. -/
def declareInterface (p : Package) (name : String) : Except OutlineError Package :=
  if p.types.contains name then .error (.typeExists p.name name)
  else .ok { p with types := p.types.insert name (.interface (.new p.name name)) }

/-- The interface in the slot of a name. -/
def interface? (p : Package) (name : String) : Option InterfaceDecl :=
  (p.types.get? name).bind Slot.interface?

/-- The package with the interface of a name changed. -/
def modifyInterface (p : Package) (name : String) (f : InterfaceDecl → InterfaceDecl) :
    Package :=
  { p with
    types := p.types.modify name fun
      | .interface d => .interface (f d)
      | slot => slot }

/-- The package without the methods of a name in its object factory. -/
def removeFactoryMethods (p : Package) (name : String) : Package :=
  { p with objectFactory := p.objectFactory.filter (·.name ≠ name) }

end Package

/-! ### Outlines -/

/-- Outlines: packages by name, and classes by qualified name. -/
structure Outline where
  packages : SortedMap String Package := {}
  classes : SortedMap String GeneratedClass := {}
deriving Inhabited

namespace Outline

/-- The outline with a package put under its name. -/
def addPackage (o : Outline) (p : Package) : Outline :=
  { o with packages := o.packages.insert p.name p }

/-- The outline with a class, in the registry and in the slot of its name. -/
def addClass (o : Outline) (c : GeneratedClass) : Except OutlineError Outline :=
  match o.packages.get? c.package with
  | none => .error (.unknownPackage c.package)
  | some p =>
    if p.types.contains c.name then .error (.typeExists c.package c.name)
    else
      let p := { p with types := p.types.insert c.name (.class c.qualifiedName) }
      .ok
        { packages := o.packages.insert c.package p
          classes := o.classes.insert c.qualifiedName c }

/-- The outline with a package changed. -/
def modifyPackage (o : Outline) (name : String) (f : Package → Package) : Outline :=
  { o with packages := o.packages.modify name f }

/-- The first package with a namespace. -/
def packageForNamespace? (o : Outline) (space : String) : Option Package :=
  o.packages.values.find? (·.space = some space)

/-- The first class generated as the placeholder of a group. -/
def classForGroup? (o : Outline) (group : QName) : Option GeneratedClass :=
  o.classes.values.find? (·.isPlaceholderOf group)

/-- The interface that a reference names. -/
def interface? (o : Outline) (t : TypeRef) : Option InterfaceDecl :=
  (o.packages.get? t.package).bind (·.interface? t.name)

/-- The outline with the interface of a reference changed. -/
def modifyInterface (o : Outline) (t : TypeRef) (f : InterfaceDecl → InterfaceDecl) : Outline :=
  o.modifyPackage t.package (·.modifyInterface t.name f)

/-- The outline with a class changed. -/
def modifyClass (o : Outline) (name : String) (f : GeneratedClass → GeneratedClass) : Outline :=
  { o with classes := o.classes.modify name f }

/-- All interfaces in slots of packages. -/
def interfaces (o : Outline) : List InterfaceDecl :=
  o.packages.values.flatMap fun p => p.types.values.filterMap Slot.interface?

end Outline

end GroupInterfaces
