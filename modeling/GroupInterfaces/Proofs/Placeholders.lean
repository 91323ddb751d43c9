import GroupInterfaces.Proofs.Lists
import GroupInterfaces.Proofs.Slots

/-!
# What the removal of placeholders does

Each placeholder is taken from the classes, and the methods that create it are taken from the
object factory of its package. A package loses no other method, and the methods that it keeps stay
in their order. The slots of types are left as they are.
-/

namespace GroupInterfaces

/-- The names of the methods that create the placeholders of some interfaces in a package. -/
def factoryMethods (is : List SynthesizedInterface) (package : String) : List String :=
  (is.filter (·.placeholder.package = package)).map ("create" ++ ·.placeholder.name)

/-- The package without the methods of some names in its object factory. -/
def Package.withoutFactoryMethods (p : Package) (names : List String) : Package :=
  { p with objectFactory := p.objectFactory.filter (·.name ∉ names) }

theorem Package.withoutFactoryMethods_nil (p : Package) :
  p.withoutFactoryMethods [] = p
  := by
  have all : p.objectFactory.filter (·.name ∉ ([] : List String)) = p.objectFactory :=
    List.filter_eq_self.mpr (by simp)
  rw [withoutFactoryMethods, all]

theorem Package.withoutFactoryMethods_cons (p : Package) (name : String) (names : List String) :
  p.withoutFactoryMethods (name :: names)
    = (p.removeFactoryMethods name).withoutFactoryMethods names
  := by
  have both : p.objectFactory.filter (·.name ∉ name :: names)
      = (p.objectFactory.filter (·.name ≠ name)).filter (·.name ∉ names) := by
    rw [List.filter_filter]
    apply List.filter_congr
    intro m _
    rw [Bool.eq_iff_iff]
    simp [and_comm]
  rw [withoutFactoryMethods, both]
  rfl

namespace Outline

theorem removePlaceholders_cons (o : Outline) (i : SynthesizedInterface)
    (is : List SynthesizedInterface) :
  (o.removePlaceholders (i :: is)).2
    = ((o.removePlaceholder i.placeholder).removePlaceholders is).2
  := by
  simp only [removePlaceholders]
  split
  · rfl
  · rfl

/-! ### Slots -/

theorem slot?_removePlaceholder (o : Outline) (placeholder t : TypeRef) :
  (o.removePlaceholder placeholder).slot? t = o.slot? t
  := by
  simp only [slot?, removePlaceholder, modifyPackage, SortedMap.get?_modify_key]
  split
  · next here =>
      rw [here]
      cases o.packages.get? placeholder.package with
      | none => rfl
      | some p => rfl
  · rfl

theorem slot?_removePlaceholders (o : Outline) (is : List SynthesizedInterface) (t : TypeRef) :
  (o.removePlaceholders is).2.slot? t = o.slot? t
  := by
  induction is generalizing o with
  | nil => rfl
  | cons i is ih => rw [removePlaceholders_cons, ih, slot?_removePlaceholder]

/-! ### Classes and packages -/

theorem get?_classes_removePlaceholder (o : Outline) (placeholder : TypeRef) (name : String) :
  (o.removePlaceholder placeholder).classes.get? name
    = if name = placeholder.qualifiedName then none else o.classes.get? name
  := SortedMap.get?_erase_key _ _ _

theorem get?_packages_removePlaceholder (o : Outline) (placeholder : TypeRef) (name : String) :
  (o.removePlaceholder placeholder).packages.get? name
    = if name = placeholder.package
      then (o.packages.get? name).map (·.removeFactoryMethods ("create" ++ placeholder.name))
      else o.packages.get? name
  := SortedMap.get?_modify_key _ _ _ _

/-- The classes are registered still except for the placeholders. -/
theorem get?_classes_removePlaceholders_eq (o : Outline) (is : List SynthesizedInterface)
    (name : String) :
  (o.removePlaceholders is).2.classes.get? name
    = if ∃ i ∈ is, i.placeholder.qualifiedName = name then none else o.classes.get? name
  := by
  induction is generalizing o with
  | nil => simp [removePlaceholders]
  | cons i is ih =>
      rw [removePlaceholders_cons, ih, get?_classes_removePlaceholder]
      by_cases here : name = i.placeholder.qualifiedName
      · simp [here]
      · simp [here, Ne.symm here]

/-- A class is still there if it is not registered as the placeholder of an interface. -/
theorem get?_classes_removePlaceholders {is : List SynthesizedInterface} {name : String}
    (h : ∀ i ∈ is, i.placeholder.qualifiedName ≠ name) (o : Outline) :
  (o.removePlaceholders is).2.classes.get? name = o.classes.get? name
  := by
  rw [get?_classes_removePlaceholders_eq]
  apply if_neg
  rintro ⟨i, mem, here⟩
  apply h i mem here

/-- The packages keep what they have, except for the methods that create placeholders. -/
theorem get?_packages_removePlaceholders (o : Outline) (is : List SynthesizedInterface)
    (name : String) :
  (o.removePlaceholders is).2.packages.get? name
    = (o.packages.get? name).map (·.withoutFactoryMethods (factoryMethods is name))
  := by
  induction is generalizing o with
  | nil =>
      cases found : o.packages.get? name with
      | none => simp [removePlaceholders, found]
      | some p => simp [removePlaceholders, found, factoryMethods, p.withoutFactoryMethods_nil]
  | cons i is ih =>
      rw [removePlaceholders_cons, ih, get?_packages_removePlaceholder]
      by_cases here : name = i.placeholder.package
      · have methods : factoryMethods (i :: is) name
            = ("create" ++ i.placeholder.name) :: factoryMethods is name := by
          simp [factoryMethods, here]
        rw [if_pos here, methods, Option.map_map]
        apply congrFun (congrArg Option.map _)
        funext p
        symm
        apply p.withoutFactoryMethods_cons
      · have methods : factoryMethods (i :: is) name = factoryMethods is name := by
          simp [factoryMethods, Ne.symm here]
        rw [if_neg here, methods]

/-- Placeholders that are all registered, under names of their own, are removed in order. -/
theorem removed_eq_map_placeholder {o : Outline} {is : List SynthesizedInterface}
    (distinct : (is.map (·.placeholder.qualifiedName)).Nodup)
    (registered : ∀ i ∈ is, o.classes.contains i.placeholder.qualifiedName) :
  (o.removePlaceholders is).1 = is.map (·.placeholder)
  := by
  induction is generalizing o with
  | nil => rfl
  | cons i is ih =>
      rw [List.map_cons, List.nodup_cons] at distinct
      obtain ⟨fresh, distinct⟩ := distinct
      have others : ∀ j ∈ is,
          (o.removePlaceholder i.placeholder).classes.contains j.placeholder.qualifiedName := by
        intro j mem
        rw [SortedMap.contains, get?_classes_removePlaceholder,
          if_neg (key_ne_of_notMem_map fresh mem)]
        apply registered j (List.mem_cons_of_mem i mem)
      simp only [removePlaceholders, registered i List.mem_cons_self, if_true, ih distinct others,
        List.map_cons]

end Outline

end GroupInterfaces
