import GroupInterfaces.Generation.Settings
import GroupInterfaces.Outline.Basic

/-!
# Accessors

An interface declares the getter and the setter that a class has for a field. Both are known
by their names, and nothing is declared for a field without a getter.
-/

namespace GroupInterfaces

/-- What the names of the accessors of a field end in. Content of any kind is known as
`Content`. -/
def Field.stem (f : Field) : String :=
  if f.propertyName = "Any" then "Content" else f.propertyName

/-- The getter that a class has for a field. -/
def GeneratedClass.getter? (c : GeneratedClass) (f : Field) : Option Method :=
  (c.findMethod? ("get" ++ f.stem) 0).or (c.findMethod? ("is" ++ f.stem) 0)

/-- The setter that a class has for a field. -/
def GeneratedClass.setter? (c : GeneratedClass) (f : Field) : Option Method :=
  c.findMethod? ("set" ++ f.stem) 1

/-- What a setter throws whose change may be vetoed. -/
def vetoException : String := "java.beans.PropertyVetoException"

/-- The accessors to declare for a field. -/
structure Accessors where
  getter : Option Method := none
  setter : Option Method := none
deriving DecidableEq, Inhabited

/-- The methods to declare for a field. -/
def Accessors.methods (a : Accessors) : List Method := a.getter.toList ++ a.setter.toList

/-- The setter to declare for one of a class. -/
def declaredSetter (s : Settings) (setter : Method) : Method :=
  { setter with throws := if s.setterThrowsVeto then [vetoException] else [] }

/-- The accessors to declare for a field of a class. -/
def GeneratedClass.accessors (c : GeneratedClass) (s : Settings) (f : Field) : Accessors :=
  match c.getter? f with
  | none => {}
  | some getter =>
    { getter := some { name := getter.name, returnType := getter.returnType }
      setter := if s.immutable then none else (c.setter? f).map (declaredSetter s) }

end GroupInterfaces
