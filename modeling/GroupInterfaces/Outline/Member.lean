/-!
# Fields and methods

The members of generated classes and interfaces. Types of members are texts that nothing
here looks into.
-/

namespace GroupInterfaces

/-- Parameters of methods. -/
structure Param where
  name : String
  type : String
deriving DecidableEq, Inhabited

/-- Methods. -/
structure Method where
  name : String
  returnType : String
  params : List Param := []
  throws : List String := []
deriving DecidableEq, Inhabited

/-- The method on one line. -/
def Method.signature (m : Method) : String :=
  let params := ", ".intercalate (m.params.map fun p => p.type ++ " " ++ p.name)
  let declared := m.returnType ++ " " ++ m.name ++ "(" ++ params ++ ")"
  if m.throws.isEmpty then declared
  else declared ++ " throws " ++ ", ".intercalate m.throws

/-- A field of a class, with the public name of the property it holds. -/
structure Field where
  propertyName : String
  fieldName : String
  type : String
deriving DecidableEq, Inhabited

end GroupInterfaces
