import GroupInterfaces.Generation.Failure
import GroupInterfaces.Implementation.Associations
import GroupInterfaces.Interface.Basic
import GroupInterfaces.Schema.Structure

/-!
# Binding of classes

A class whose complex type uses groups implements the interfaces of these groups. The
interface of a group is the one of the same run, else the one that another episode has
published, if it is compiled; else it is the compiled type that has the name which the group
would give it. Where there is none, the user is warned.
-/

namespace GroupInterfaces

/-- The reasons for which there is no interface to implement. -/
inductive Unavailable where
  | notCompiled (interface : TypeRef)
  | noPackage
  | notFound (interface : TypeRef)
deriving DecidableEq

/-- The reason in words. -/
def Unavailable.message (group : QName) : Unavailable → String
  | .notCompiled interface =>
    "interface " ++ interface.qualifiedName ++ " for group " ++ group.clark
      ++ " is not available to implement"
  | .noPackage =>
    "no package found for namespace \"" ++ group.space ++ "\" of group " ++ group.clark
  | .notFound interface =>
    "interface " ++ interface.qualifiedName ++ " for group " ++ group.clark ++ " not found"

/-- The interface that stands for a group in a class. -/
inductive Resolution where
  | synthesized (interface : TypeRef)
  | compiled (interface : TypeRef)
  | unavailable (reason : Unavailable)
deriving DecidableEq

/-- The interface to implement, if there is one. -/
def Resolution.typeRef? : Resolution → Option TypeRef
  | .synthesized t | .compiled t => some t
  | .unavailable _ => none

/-- The compiled type that has the name which a group would give it. -/
def resolveByName (environment : Environment) (group : QName) : Resolution :=
  match Naming.packageName? group.space with
  | none => .unavailable .noPackage
  | some package =>
    let candidate : TypeRef := { package, name := Naming.className group.localName }
    if environment.contains candidate then .compiled candidate
    else .unavailable (.notFound candidate)

/-- The interface to implement for a group. -/
def resolve (set : InterfaceSet) (index : Episode.Index) (environment : Environment)
    (group : QName) : Resolution :=
  match set.get? group with
  | some i => .synthesized i.typeRef
  | none =>
    match index.get? group with
    | some published =>
      match published.compiled? with
      | some t => .compiled t
      | none => .unavailable (.notCompiled published.typeRef)
    | none => resolveByName environment group

/-- The interfaces of a class: each group that its type uses, in order, with the interface
to implement for it. -/
def ContentGroups.resolutions (g : ContentGroups) (modelGroups attributeGroups : InterfaceSet)
    (index : Episode.Index) (environment : Environment) : List (QName × Resolution) :=
  (g.attributeGroups.map fun q => (q, resolve attributeGroups index environment q))
    ++ g.modelGroups.map fun q => (q, resolve modelGroups index environment q)

/-- What binding has done so far. -/
structure Bound where
  outline : Outline
  associations : Associations := {}
  warnings : List Diagnostic := []
deriving Inhabited

/-- The warning that a class does not implement the interface of a group. -/
def Unavailable.warning (reason : Unavailable) (schema : SchemaSet) (className : String)
    (group : QName) : Diagnostic :=
  { severity := .warning
    message := reason.message group ++ "; class " ++ className ++ " will not implement it"
    locator := schema.locatorOf? group }

/-- Binds a class to the interface of a group. -/
def Bound.bind (b : Bound) (schema : SchemaSet) (className : String) (group : QName) :
    Resolution → Bound
  | .synthesized t =>
    { b with
      associations := b.associations.record className t
      outline := b.outline.modifyClass className (·.addImplements t) }
  | .compiled t => { b with outline := b.outline.modifyClass className (·.addImplements t) }
  | .unavailable reason =>
    { b with warnings := b.warnings ++ [reason.warning schema className group] }

/-- Binds a class to the interfaces of groups. -/
def Bound.bindAll (b : Bound) (schema : SchemaSet) (className : String)
    (resolutions : List (QName × Resolution)) : Bound :=
  resolutions.foldl (fun b (group, r) => b.bind schema className group r) b

/-- The classes with a complex type, and the groups that it uses. -/
def Outline.bindable (o : Outline) : List (String × ContentGroups) :=
  o.classes.toList.filterMap fun (name, c) => c.complexType?.map fun t => (name, t.groups)

/-- The outline with all its classes bound to the interfaces of the groups they use. -/
def Outline.bind (o : Outline) (schema : SchemaSet) (modelGroups attributeGroups : InterfaceSet)
    (index : Episode.Index) (environment : Environment) : Bound :=
  o.bindable.foldl
    (fun b (className, groups) =>
      b.bindAll schema className
        (groups.resolutions modelGroups attributeGroups index environment))
    { outline := o }

end GroupInterfaces
