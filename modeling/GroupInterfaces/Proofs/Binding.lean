import GroupInterfaces.Implementation.Binding
import GroupInterfaces.Proofs.Slots

/-!
# What binding does

Binding changes nothing but the lists of interfaces that classes implement, and it does this
to each class with a complex type on its own: the class implements the interfaces for the
groups that its type uses, and each group without one is a warning. It does not touch the slots
of types.
-/

namespace GroupInterfaces

/-- The class implementing further interfaces. -/
def GeneratedClass.implementing (c : GeneratedClass) (ts : List TypeRef) : GeneratedClass :=
  ts.foldl GeneratedClass.addImplements c

/-- The class implementing the interfaces for the groups that its complex type uses, if it has
one. -/
def GeneratedClass.bound (c : GeneratedClass) (f : ContentGroups → List TypeRef) :
    GeneratedClass :=
  match c.complexType? with
  | some t => c.implementing (f t.groups)
  | none => c

/-- The reason for which there is no interface, if there is none. -/
def Resolution.reason? : Resolution → Option Unavailable
  | .synthesized _ | .compiled _ => none
  | .unavailable reason => some reason

/-- The interfaces to implement among those for some groups. -/
def interfacesOf (resolutions : List (QName × Resolution)) : List TypeRef :=
  resolutions.filterMap (·.2.typeRef?)

/-- The warnings for the groups among some for which a class has no interface to implement. -/
def warningsOf (schema : SchemaSet) (className : String)
    (resolutions : List (QName × Resolution)) : List Diagnostic :=
  resolutions.filterMap fun (group, r) => r.reason?.map (·.warning schema className group)

/-! ### Adding what is new -/

section

variable {α : Type*} [DecidableEq α]

theorem addNew_of_mem {as : List α} {a : α} (h : a ∈ as) :
  addNew as a = as
  := if_pos h

theorem prefix_addNew (as : List α) (a : α) :
  as <+: addNew as a
  := by
  rw [addNew]
  split
  · apply List.prefix_refl
  · apply List.prefix_append

theorem mem_addNew_iff {as : List α} {a b : α} :
  b ∈ addNew as a ↔ b ∈ as ∨ b = a
  := by
  rw [addNew]
  split
  · next old =>
      constructor
      · apply Or.inl
      · rintro (mem | rfl)
        · apply mem
        · apply old
  · rw [List.mem_append, List.mem_singleton]

/-- What a list has stays in front of what is added to it. -/
theorem prefix_foldl_addNew (as bs : List α) :
  as <+: bs.foldl addNew as
  := by
  induction bs generalizing as with
  | nil => apply List.prefix_refl
  | cons b bs ih => apply (prefix_addNew as b).trans (ih _)

theorem mem_foldl_addNew_iff {as bs : List α} {a : α} :
  a ∈ bs.foldl addNew as ↔ a ∈ as ∨ a ∈ bs
  := by
  induction bs generalizing as with
  | nil => simp
  | cons b bs ih => rw [List.foldl_cons, ih, mem_addNew_iff, List.mem_cons, or_assoc]

theorem nodup_addNew {as : List α} (h : as.Nodup) (a : α) :
  (addNew as a).Nodup
  := by
  rw [addNew]
  split
  · apply h
  · next new => apply List.nodup_append'.mpr ⟨h, List.nodup_singleton a, by simpa using new⟩

/-- What is added to a list without repetitions leaves it without repetitions. -/
theorem nodup_foldl_addNew {as : List α} (h : as.Nodup) (bs : List α) :
  (bs.foldl addNew as).Nodup
  := by
  induction bs generalizing as with
  | nil => apply h
  | cons b bs ih => apply ih (nodup_addNew h b)

/-- Nothing is added to a list that has it all. -/
theorem foldl_addNew_of_subset {as bs : List α} (h : ∀ b ∈ bs, b ∈ as) :
  bs.foldl addNew as = as
  := by
  induction bs with
  | nil => rfl
  | cons b bs ih =>
      rw [List.foldl_cons, addNew_of_mem (h b List.mem_cons_self)]
      apply ih fun b' mem => h b' (List.mem_cons_of_mem b mem)

end

/-! ### One class -/

namespace GeneratedClass

/-- A class that implements further interfaces is the same otherwise. -/
theorem implementing_eq (c : GeneratedClass) (ts : List TypeRef) :
  c.implementing ts = { c with implements := ts.foldl addNew c.implements }
  := by
  induction ts generalizing c with
  | nil => rfl
  | cons t ts ih => apply ih (c.addImplements t)

/-- Binding a class changes nothing but the interfaces that it implements, and takes none of
them away. -/
theorem exists_bound_eq (c : GeneratedClass) (f : ContentGroups → List TypeRef) :
  ∃ implements, c.implements <+: implements ∧ c.bound f = { c with implements }
  := by
  rw [bound]
  split
  · next t _ =>
      use (f t.groups).foldl addNew c.implements, prefix_foldl_addNew _ _
      apply implementing_eq
  · use c.implements, List.prefix_refl _

/-- A class implements the interfaces that it is bound to. -/
theorem mem_implements_bound (c : GeneratedClass) {type : ComplexType}
    (here : c.complexType? = some type) {f : ContentGroups → List TypeRef} {t : TypeRef}
    (mem : t ∈ f type.groups) :
  t ∈ (c.bound f).implements
  := by
  simp only [bound, here, implementing_eq]
  apply mem_foldl_addNew_iff.mpr (Or.inr mem)

theorem typeRef_bound (c : GeneratedClass) (f : ContentGroups → List TypeRef) :
  (c.bound f).typeRef = c.typeRef
  := by
  obtain ⟨implements, -, same⟩ := c.exists_bound_eq f
  rw [same]
  rfl

theorem complexType?_bound (c : GeneratedClass) (f : ContentGroups → List TypeRef) :
  (c.bound f).complexType? = c.complexType?
  := by
  obtain ⟨implements, -, same⟩ := c.exists_bound_eq f
  rw [same]
  rfl

/-- Binding a class again to what it is bound to changes nothing. -/
theorem bound_bound (c : GeneratedClass) {f g : ContentGroups → List TypeRef}
    (same : ∀ {t}, c.complexType? = some t → g t.groups = f t.groups) :
  (c.bound f).bound g = c.bound f
  := by
  cases type : c.complexType? with
  | none => simp only [bound, type]
  | some t =>
      have bound : c.bound f = c.implementing (f t.groups) := by simp only [bound, type]
      have type' := (c.complexType?_bound f).trans type
      rw [GeneratedClass.bound, type']
      simp only
      rw [bound, implementing_eq, implementing_eq, same type]
      simp only
      rw [foldl_addNew_of_subset fun t mem => mem_foldl_addNew_iff.mpr (Or.inr mem)]

end GeneratedClass

theorem Outline.modifyClass_id (o : Outline) (name : String) :
  o.modifyClass name id = o
  := by
  have same : o.classes.modify name id = o.classes := by
    apply SortedMap.ext_get?
    intro k
    rw [SortedMap.get?_modify_key]
    split
    · next here => rw [here, Option.map_id_fun, id]
    · rfl
  rw [modifyClass, same]

theorem Outline.modifyClass_modifyClass (o : Outline) (name : String)
    (f g : GeneratedClass → GeneratedClass) :
  (o.modifyClass name f).modifyClass name g = o.modifyClass name fun c => g (f c)
  := by
  have same : (o.classes.modify name f).modify name g
      = o.classes.modify name fun c => g (f c) := by
    apply SortedMap.ext_get?
    intro k
    simp only [SortedMap.get?_modify_key]
    split
    · rw [Option.map_map]
      rfl
    · rfl
  simp only [modifyClass, same]

namespace Bound

variable (schema : SchemaSet) (className : String)

/-- Binding a class to the interfaces for some groups lets it implement these interfaces and
warns of the groups without one. -/
theorem bindAll_eq (b : Bound) (resolutions : List (QName × Resolution)) :
  (b.bindAll schema className resolutions).outline
      = b.outline.modifyClass className (·.implementing (interfacesOf resolutions))
    ∧ (b.bindAll schema className resolutions).warnings
      = b.warnings ++ warningsOf schema className resolutions
  := by
  induction resolutions generalizing b with
  | nil =>
      constructor
      · apply (b.outline.modifyClass_id className).symm
      · apply (List.append_nil b.warnings).symm
  | cons first rest ih =>
      obtain ⟨group, r⟩ := first
      obtain ⟨outline, warnings⟩ := ih (b.bind schema className group r)
      change _ = _ at outline
      cases r with
      | synthesized t =>
          constructor
          · apply outline.trans
            apply Outline.modifyClass_modifyClass
          · apply warnings
      | compiled t =>
          constructor
          · apply outline.trans
            apply Outline.modifyClass_modifyClass
          · apply warnings
      | unavailable reason =>
          constructor
          · apply outline
          · apply warnings.trans
            apply List.append_assoc

end Bound

/-! ### All classes -/

namespace Outline

/-- The outline with classes implementing the interfaces for the groups that go with them. -/
def bindClasses (f : ContentGroups → List TypeRef) (o : Outline)
    (bindable : List (String × ContentGroups)) : Outline :=
  bindable.foldl (fun o b => o.modifyClass b.1 (·.implementing (f b.2))) o

section

variable (schema : SchemaSet) (modelGroups attributeGroups : InterfaceSet)
  (index : Episode.Index) (environment : Environment)

/-- What stands for the groups that a type uses does not depend on the classes bound before. -/
theorem bind_fold_eq (b : Bound) (bindable : List (String × ContentGroups)) :
  (bindable.foldl
      (fun b (className, groups) => b.bindAll schema className
        (groups.resolutions modelGroups attributeGroups index environment)) b).outline
      = b.outline.bindClasses (fun groups => interfacesOf
          (groups.resolutions modelGroups attributeGroups index environment)) bindable
    ∧ (bindable.foldl
      (fun b (className, groups) => b.bindAll schema className
        (groups.resolutions modelGroups attributeGroups index environment)) b).warnings
      = b.warnings ++ bindable.flatMap fun (className, groups) => warningsOf schema className
          (groups.resolutions modelGroups attributeGroups index environment)
  := by
  induction bindable generalizing b with
  | nil =>
      constructor
      · rfl
      · apply (List.append_nil b.warnings).symm
  | cons first rest ih =>
      obtain ⟨className, groups⟩ := first
      have one := b.bindAll_eq schema className
        (groups.resolutions modelGroups attributeGroups index environment)
      have others := ih (b.bindAll schema className
        (groups.resolutions modelGroups attributeGroups index environment))
      constructor
      · rw [List.foldl_cons, others.1, one.1]
        rfl
      · rw [List.foldl_cons, others.2, one.2, List.flatMap_cons, List.append_assoc]

theorem outline_bind (o : Outline) :
  (o.bind schema modelGroups attributeGroups index environment).outline
    = o.bindClasses (fun groups => interfacesOf
        (groups.resolutions modelGroups attributeGroups index environment)) o.bindable
  := (bind_fold_eq schema modelGroups attributeGroups index environment _ _).1

/-- The warnings of binding, class by class. -/
theorem warnings_bind (o : Outline) :
  (o.bind schema modelGroups attributeGroups index environment).warnings
    = o.bindable.flatMap fun (className, groups) => warningsOf schema className
        (groups.resolutions modelGroups attributeGroups index environment)
  := (bind_fold_eq schema modelGroups attributeGroups index environment _ _).2

end

section

variable (f : ContentGroups → List TypeRef)

theorem packages_bindClasses (o : Outline) (bindable : List (String × ContentGroups)) :
  (o.bindClasses f bindable).packages = o.packages
  := by
  induction bindable generalizing o with
  | nil => rfl
  | cons first rest ih => apply ih

theorem get?_bindClasses_of_notMem {bindable : List (String × ContentGroups)} {name : String}
    (h : name ∉ bindable.map (·.1)) (o : Outline) :
  (o.bindClasses f bindable).classes.get? name = o.classes.get? name
  := by
  induction bindable generalizing o with
  | nil => rfl
  | cons first rest ih =>
      rw [List.map_cons, List.mem_cons, not_or] at h
      apply (ih h.2 _).trans
      apply (SortedMap.get?_modify_key _ _ _ _).trans
      rw [if_neg h.1]

/-- Of classes with names of their own, each is bound to the interfaces for its groups. -/
theorem get?_bindClasses {bindable : List (String × ContentGroups)}
    (distinct : (bindable.map (·.1)).Nodup) {name : String} {groups : ContentGroups}
    (mem : (name, groups) ∈ bindable) (o : Outline) :
  (o.bindClasses f bindable).classes.get? name
    = (o.classes.get? name).map (·.implementing (f groups))
  := by
  induction bindable generalizing o with
  | nil => cases mem
  | cons first rest ih =>
      rw [List.map_cons, List.nodup_cons] at distinct
      obtain ⟨fresh, distinct⟩ := distinct
      have one := SortedMap.get?_modify_key o.classes first.1 name (·.implementing (f first.2))
      rcases List.mem_cons.mp mem with rfl | mem
      · apply (get?_bindClasses_of_notMem f fresh _).trans
        apply one.trans
        rw [if_pos rfl]
      · have apart : name ≠ first.1 := key_ne_of_notMem_map fresh mem
        rw [if_neg apart] at one
        rw [← one]
        apply ih distinct mem

end

theorem mem_bindable_iff {o : Outline} {name : String} {groups : ContentGroups} :
  (name, groups) ∈ o.bindable
    ↔ ∃ c t, o.classes.get? name = some c ∧ c.complexType? = some t ∧ t.groups = groups
  := by
  rw [bindable, List.mem_filterMap]
  constructor
  · rintro ⟨⟨name', c⟩, mem, found⟩
    obtain ⟨t, type, same⟩ := Option.map_eq_some_iff.mp found
    obtain ⟨rfl, rfl⟩ := Prod.mk.inj same
    use c, t, SortedMap.mem_toList_iff.mp mem
  · rintro ⟨c, t, found, type, rfl⟩
    use (name, c), SortedMap.mem_toList_iff.mpr found
    simp [type]

/-- The classes that are bound are taken in the order of their names. -/
theorem keys_bindable_sublist (o : Outline) :
  (o.bindable.map (·.1)).Sublist o.classes.keys
  := by
  rw [bindable, SortedMap.keys]
  induction o.classes.toList with
  | nil => apply List.Sublist.refl
  | cons e rest ih =>
      obtain ⟨name, c⟩ := e
      cases h : c.complexType? with
      | none => simpa [h] using ih.cons name
      | some t => simpa [h] using ih.cons_cons name

theorem nodup_bindable (o : Outline) :
  (o.bindable.map (·.1)).Nodup
  := o.keys_bindable_sublist.nodup o.classes.nodup_keys

/-- A class with a complex type is bound, with the groups that the type uses, and no other is. -/
theorem bindable_cases (o : Outline) (name : String) :
  (∃ c t, o.classes.get? name = some c ∧ c.complexType? = some t
      ∧ (name, t.groups) ∈ o.bindable)
    ∨ name ∉ o.bindable.map (·.1) ∧ ∀ c, o.classes.get? name = some c → c.complexType? = none
  := by
  by_cases mem : name ∈ o.bindable.map (·.1)
  · obtain ⟨⟨_, groups⟩, entry, rfl⟩ := List.mem_map.mp mem
    obtain ⟨c, t, found, type, rfl⟩ := mem_bindable_iff.mp entry
    apply Or.inl ⟨c, t, found, type, entry⟩
  · right
    use mem
    intro c found
    cases type : c.complexType? with
    | none => rfl
    | some t =>
        exfalso
        apply mem
        apply List.mem_map.mpr ⟨(name, t.groups), _, rfl⟩
        apply mem_bindable_iff.mpr ⟨c, t, found, type, rfl⟩

/-- Which classes are bound, and with which groups, tells the list of them. -/
theorem bindable_ext {o o' : Outline}
    (h : ∀ {name groups}, (name, groups) ∈ o.bindable ↔ (name, groups) ∈ o'.bindable) :
  o.bindable = o'.bindable
  := by
  have ascending : ∀ o : Outline, Entries.Ascending o.bindable := by
    intro o
    apply Entries.ascending_iff_map_fst.mpr
    apply List.Pairwise.sublist o.keys_bindable_sublist
    apply Entries.ascending_iff_map_fst.mp o.classes.ascending
  apply Entries.ascending_ext (ascending o) (ascending o')
  intro name
  apply Option.ext
  intro groups
  rw [Entries.get?_eq_some_iff_mem (ascending o), Entries.get?_eq_some_iff_mem (ascending o')]
  apply h

section

variable (schema : SchemaSet) (modelGroups attributeGroups : InterfaceSet)
  (index : Episode.Index) (environment : Environment)

/-- Behind binding, each class is bound to the interfaces for the groups that its complex type
uses. -/
theorem get?_classes_bind (o : Outline) (name : String) :
  (o.bind schema modelGroups attributeGroups index environment).outline.classes.get? name
    = (o.classes.get? name).map (·.bound fun groups => interfacesOf
        (groups.resolutions modelGroups attributeGroups index environment))
  := by
  rw [outline_bind]
  obtain ⟨c, t, found, type, mem⟩ | ⟨absent, untyped⟩ := o.bindable_cases name
  · rw [get?_bindClasses _ o.nodup_bindable mem]
    simp only [found, Option.map_some, GeneratedClass.bound, type]
  · rw [get?_bindClasses_of_notMem _ absent]
    cases found : o.classes.get? name with
    | none => rfl
    | some c => simp only [Option.map_some, GeneratedClass.bound, untyped c found]

theorem slot?_bind (o : Outline) (t : TypeRef) :
  (o.bind schema modelGroups attributeGroups index environment).outline.slot? t = o.slot? t
  := by
  rw [outline_bind, slot?, packages_bindClasses]
  rfl

end

end Outline

end GroupInterfaces
