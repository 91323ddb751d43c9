import GroupInterfaces.Builder.Basic

/-!
# Reports

What a run that succeeds has done.
-/

namespace GroupInterfaces

/-- Reports of runs. -/
structure Report where
  settings : Settings
  modelGroupInterfaces : InterfaceSet
  attributeGroupInterfaces : InterfaceSet
  associations : Associations
  builders : BuilderOutlines
  removedClasses : List TypeRef
  warnings : List Diagnostic

namespace Report

/-- The interfaces of model groups, and behind them those of attribute groups. -/
def interfaces (r : Report) : List SynthesizedInterface :=
  r.modelGroupInterfaces.values ++ r.attributeGroupInterfaces.values

/-- The interface of a group. A model group comes before an attribute group of the same
name. -/
def interface? (r : Report) (group : QName) : Option SynthesizedInterface :=
  (r.modelGroupInterfaces.get? group).or (r.attributeGroupInterfaces.get? group)

/-- The number of interfaces. -/
def interfaceCount (r : Report) : Nat :=
  r.modelGroupInterfaces.size + r.attributeGroupInterfaces.size

end Report

end GroupInterfaces
