import GroupInterfaces.Interface.Basic
import GroupInterfaces.Outline.Basic

/-!
# Removal of placeholders

Once an interface stands for a group, the class that was its placeholder is no longer
registered, and no method of the object factory creates it.
-/

namespace GroupInterfaces

/-- The outline without a placeholder. -/
def Outline.removePlaceholder (o : Outline) (placeholder : TypeRef) : Outline :=
  let o := o.modifyPackage placeholder.package
    (·.removeFactoryMethods ("create" ++ placeholder.name))
  { o with classes := o.classes.erase placeholder.qualifiedName }

/-- The outline without the placeholders of some interfaces, and those of them that were
registered. -/
def Outline.removePlaceholders (o : Outline) : List SynthesizedInterface → List TypeRef × Outline
  | [] => ([], o)
  | i :: rest =>
    let (removed, behind) := (o.removePlaceholder i.placeholder).removePlaceholders rest
    if o.classes.contains i.placeholder.qualifiedName then (i.placeholder :: removed, behind)
    else (removed, behind)

end GroupInterfaces
