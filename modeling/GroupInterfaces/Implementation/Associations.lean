import GroupInterfaces.Outline.Basic

/-!
# Associations

Which classes implement which synthesized interfaces. The interfaces of a class are listed
once each, in the order in which they were first recorded.
-/

namespace GroupInterfaces

/-- Lists of interfaces by the qualified names of classes. -/
structure Associations where
  byClass : SortedMap String (List TypeRef) := {}
deriving DecidableEq, Inhabited

namespace Associations

/-- The interfaces of a class. -/
def interfacesOf (a : Associations) (className : String) : List TypeRef :=
  (a.byClass.get? className).getD []

/-- The associations with one more. -/
def record (a : Associations) (className : String) (interface : TypeRef) : Associations :=
  ⟨a.byClass.insert className (addNew (a.interfacesOf className) interface)⟩

/-- The classes that implement an interface, in order. -/
def implementorsOf (a : Associations) (interface : TypeRef) : List String :=
  (a.byClass.toList.filter fun (_, interfaces) => interfaces.contains interface).map (·.1)

/-- The classes with their interfaces, in order. -/
def toList (a : Associations) : List (String × List TypeRef) := a.byClass.toList

/-- The number of classes. -/
def size (a : Associations) : Nat := a.byClass.size

/-- No class has an interface. -/
def isEmpty (a : Associations) : Bool := a.byClass.isEmpty

end Associations

end GroupInterfaces
