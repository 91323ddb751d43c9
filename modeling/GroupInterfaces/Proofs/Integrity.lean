import GroupInterfaces.Proofs.Agreement
import GroupInterfaces.Proofs.Completion

/-!
# Referential integrity

An outline says twice which classes there are, in its registry and in the slots of its packages.
A run changes the slots first and the registry last, and in between it records which classes
implement which interfaces. At its end the two agree again if they did before, and all that the
report names is there.
-/

namespace GroupInterfaces

/-- Packages are under their names, classes are registered under their qualified names, and the
registered classes are those in slots. -/
structure Outline.Consistent (o : Outline) : Prop where
  named : ∀ {name p}, o.packages.get? name = some p → p.name = name
  keyed : o.Keyed
  registered : ∀ {t name}, o.slot? t = some (.class name) →
    ∃ c, o.classes.get? name = some c ∧ c.typeRef = t
  occupied : ∀ {name c}, o.classes.get? name = some c → o.slot? c.typeRef = some (.class name)

/-- All that a report names is there in an outline: the classes that implement interfaces, these
interfaces, those of the same run that are extended, and those of builders. The placeholders that
it lists are not there. -/
structure Report.RefersInto (r : Report) (o : Outline) : Prop where
  associations : ∀ {name ts}, r.associations.byClass.get? name = some ts →
    ∃ c, o.classes.get? name = some c
      ∧ ∀ t ∈ ts, t ∈ c.implements ∧ (o.interface? t).isSome
  supertypes : ∀ i ∈ r.interfaces, ∀ {t}, .synthesized t ∈ i.supertypes → (o.interface? t).isSome
  builders : ∀ b ∈ r.builders.values, ∃ d n, o.interface? b.interface = some d
    ∧ d.nested? b.builderName = some n
    ∧ n.package = b.builderType.package ∧ n.name = b.builderType.name
  removed : ∀ t ∈ r.removedClasses, o.classes.get? t.qualifiedName = none
    ∧ ∀ u, o.slot? u ≠ some (.class t.qualifiedName)

/-! ### What is nested does not matter -/

namespace Outline

theorem SameButNested.slot?_eq_class_iff {o o' : Outline} (h : o.SameButNested o') {t : TypeRef}
    {name : String} :
  o'.slot? t = some (.class name) ↔ o.slot? t = some (.class name)
  := by
  have unnested : ∀ slot : Option Slot, slot = some (.class name)
      ↔ slot.map (Slot.mapInterface .unnested) = some (.class name) := by
    intro slot
    rcases slot with _ | (_ | _)
    · rfl
    · rfl
    · simp [Slot.mapInterface]
  rw [unnested, h.slots, ← unnested]

/-- An outline that differs in what is nested in interfaces only is consistent as well. -/
theorem Consistent.of_sameButNested {o o' : Outline} (h : o.Consistent) (frame : o.SameFrame o')
    (nested : o.SameButNested o') :
  o'.Consistent
  where
  named := by
    intro name p found
    obtain ⟨p', found', bare⟩ := frame.symm.package found
    rw [← Package.name_eq_of_bare_eq bare]
    apply h.named found'
  keyed := by
    intro name c found
    rw [frame.classes] at found
    apply h.keyed name c found
  registered := by
    intro t name slot
    rw [frame.classes]
    apply h.registered (nested.slot?_eq_class_iff.mp slot)
  occupied := by
    intro name c found
    rw [frame.classes] at found
    apply nested.slot?_eq_class_iff.mpr (h.occupied found)

end Outline

/-! ### Interfaces of the same run -/

/-- Only the set of a run resolves a group to an interface of the same run. -/
theorem exists_of_synthesized?_resolve {set : InterfaceSet} {index : Episode.Index}
    {environment : Environment} {group : QName} {t : TypeRef}
    (h : (resolve set index environment group).synthesized? = some t) :
  ∃ i, set.get? group = some i ∧ i.typeRef = t
  := by
  -- All but the set give types that are compiled already.
  have byName : (resolveByName environment group).synthesized? = none := by
    rw [resolveByName]
    split
    · rfl
    · simp only
      split
      · rfl
      · rfl
  rw [resolve] at h
  split at h
  · next i found => use i, found, Option.some.inj h
  · split at h
    · split at h
      · cases h
      · cases h
    · rw [byName] at h
      cases h

/-- What a class implements of the same run is an interface of one of the sets of the run. -/
theorem exists_get?_of_mem_synthesizedOf {groups : ContentGroups}
    {modelGroups attributeGroups : InterfaceSet} {index : Episode.Index}
    {environment : Environment} {t : TypeRef}
    (h : t ∈ synthesizedOf (groups.resolutions modelGroups attributeGroups index environment)) :
  ∃ group i, (modelGroups.get? group = some i ∨ attributeGroups.get? group = some i)
    ∧ i.typeRef = t
  := by
  obtain ⟨⟨group, resolution⟩, mem, found⟩ := List.mem_filterMap.mp h
  rcases List.mem_append.mp mem with mem | mem
  · obtain ⟨q, -, same⟩ := List.mem_map.mp mem
    obtain ⟨rfl, rfl⟩ := Prod.mk.inj same
    obtain ⟨i, answer, type⟩ := exists_of_synthesized?_resolve found
    use q, i, Or.inr answer
  · obtain ⟨q, -, same⟩ := List.mem_map.mp mem
    obtain ⟨rfl, rfl⟩ := Prod.mk.inj same
    obtain ⟨i, answer, type⟩ := exists_of_synthesized?_resolve found
    use q, i, Or.inl answer

namespace Report

variable {g : Generator} {s : Settings} {input : Input} {index : Episode.Index} {r : Report}
  {o : Outline} {outcome : Outcome} {t : TypeRef} {name : String}

/-- What a class is recorded to implement is an interface of the report. -/
theorem exists_mem_of_mem_synthesizedOf {groups : ContentGroups}
    (h : t ∈ synthesizedOf (r.resolutions input index groups)) :
  ∃ i ∈ r.interfaces, i.typeRef = t
  := by
  obtain ⟨group, i, answer | answer, type⟩ := exists_get?_of_mem_synthesizedOf h
  · use i, mem_interfaces_iff.mpr ⟨.modelGroup, group, answer⟩
  · use i, mem_interfaces_iff.mpr ⟨.attributeGroup, group, answer⟩

/-- What an interface extends of the same run is an interface of the report. -/
theorem exists_mem_of_synthesized_mem_supertypes (completed : g.Completed input index r outcome)
    {i : SynthesizedInterface} (mem : i ∈ r.interfaces) (h : .synthesized t ∈ i.supertypes) :
  ∃ j ∈ r.interfaces, j.typeRef = t
  := by
  obtain ⟨kind, group, found⟩ := mem_interfaces_iff.mp mem
  obtain ⟨d, -, -, i, interface, rfl⟩ := completed.get?_interfaceSet_eq_some_iff.mp found
  obtain ⟨c, -, rfl⟩ := Outline.interfaceFor?_eq_some_iff.mp interface
  rcases mem_foldl_addNew_iff.mp h with none | mem
  · cases none
  · obtain ⟨q, -, answer⟩ := List.mem_filterMap.mp mem
    rw [supertype?] at answer
    split at answer
    · next j registered =>
        obtain rfl := Supertype.synthesized.inj (Option.some.inj answer)
        have accepts := Generator.acceptsAll_unpublished completed.accepts kind
        obtain ⟨e, declared, name, found'⟩ := accepts.get?_interfaceSet_eq_some_iff.mp registered
        have linked := completed.get?_interfaceSet_eq_some_iff.mpr
          ⟨e, declared, name, j, found', rfl⟩
        exact ⟨_, mem_interfaces_iff.mpr ⟨kind, q, linked⟩, rfl⟩
    · obtain ⟨p, -, other⟩ := Option.map_eq_some_iff.mp answer
      cases other

/-- A class with a complex type is no placeholder of an interface. -/
theorem qualifiedName_ne_of_complexType? (completed : g.Completed input index r outcome)
    (keyed : input.outline.Keyed) {c : GeneratedClass}
    (found : input.outline.classes.get? name = some c) (type : c.complexType?.isSome) :
  ∀ i ∈ r.interfaces, i.placeholder.qualifiedName ≠ name
  := by
  intro i mem same
  obtain ⟨-, place, placeholder, -⟩ := completed.declaration_of_mem_interfaces mem
  obtain ⟨c', -, -, component, found'⟩ := keyed.exists_placeholder place
  rw [← placeholder, same, found] at found'
  obtain rfl := Option.some.inj found'
  rw [GeneratedClass.complexType?, component] at type
  cases type

/-! ### The settled outline -/

namespace Settled

variable (h : r.Settled s input index o)
include h

/-- The classes are those that were registered before, except for the placeholders. -/
theorem get?_classes_eq_some_iff {c : GeneratedClass} :
  o.classes.get? name = some c
    ↔ (∀ i ∈ r.interfaces, i.placeholder.qualifiedName ≠ name)
      ∧ ∃ c₀, input.outline.classes.get? name = some c₀
        ∧ c₀.bound (fun groups => interfacesOf (r.resolutions input index groups)) = c
  := by
  rw [h.classes]
  split
  · next removed =>
      constructor
      · intro found
        cases found
      · rintro ⟨remains, -⟩
        obtain ⟨i, mem, here⟩ := removed
        apply (remains i mem here).elim
  · next remains =>
      rw [Option.map_eq_some_iff]
      constructor
      · intro found
        use fun i mem here => remains ⟨i, mem, here⟩
      · apply And.right

variable (completed : g.Completed input index r outcome)
include completed

/-- The classes in slots are those that were there before, except in the slots of interfaces. -/
theorem slot?_eq_class_iff :
  o.slot? t = some (.class name)
    ↔ (∀ i ∈ r.interfaces, i.typeRef ≠ t) ∧ input.outline.slot? t = some (.class name)
  := by
  by_cases untaken : ∀ i ∈ r.interfaces, i.typeRef ≠ t
  · rw [h.kept (completed.typeRef_ne_iff.mp untaken)]
    apply (and_iff_right untaken).symm
  · constructor
    · intro slot
      push Not at untaken
      obtain ⟨i, mem, rfl⟩ := untaken
      obtain ⟨c, p, d, -, -, -, declared, -⟩ := h.exists_interface? completed mem
      rw [Outline.interface?_eq, slot] at declared
      cases declared
    · rintro ⟨free, -⟩
      apply (untaken free).elim

/-- The registry and the slots agree again once the placeholders are gone from both. -/
theorem consistent (before : input.outline.Consistent) :
  o.Consistent
  where
  named := by
    intro name p found
    have bare := h.packages name
    rw [found, Option.map_some] at bare
    obtain ⟨p₀, found₀, bare⟩ := Option.map_eq_some_iff.mp bare.symm
    rw [← before.named found₀]
    symm
    apply Package.name_eq_of_bare_eq bare
  keyed := by
    intro name c found
    obtain ⟨-, c₀, found₀, rfl⟩ := h.get?_classes_eq_some_iff.mp found
    rw [GeneratedClass.qualifiedName, GeneratedClass.typeRef_bound]
    apply before.keyed name c₀ found₀
  registered := by
    intro t name slot
    obtain ⟨untaken, slot⟩ := (h.slot?_eq_class_iff completed).mp slot
    obtain ⟨c, found, rfl⟩ := before.registered slot
    -- The class is no placeholder, whose slot would be that of an interface.
    refine ⟨_, h.get?_classes_eq_some_iff.mpr ⟨?_, c, found, rfl⟩, c.typeRef_bound _⟩
    intro i mem same
    obtain ⟨-, place, placeholder, -⟩ := completed.declaration_of_mem_interfaces mem
    obtain ⟨c', -, type, -, found'⟩ := before.keyed.exists_placeholder place
    rw [← placeholder, same, found] at found'
    obtain rfl := Option.some.inj found'
    apply untaken i mem type.symm
  occupied := by
    intro name c found
    obtain ⟨remains, c₀, found₀, rfl⟩ := h.get?_classes_eq_some_iff.mp found
    rw [GeneratedClass.typeRef_bound]
    apply (h.slot?_eq_class_iff completed).mpr
    constructor
    · intro i mem same
      apply remains i mem
      obtain ⟨-, -, placeholder, -⟩ := completed.declaration_of_mem_interfaces mem
      rw [placeholder, same]
      apply before.keyed name c₀ found₀
    · apply before.occupied found₀

/-- A class with associations is still there, and implements the interfaces of the report that
they name. -/
theorem exists_class_of_associations (keyed : input.outline.Keyed) {ts : List TypeRef}
    (found : r.associations.byClass.get? name = some ts) :
  ∃ c, o.classes.get? name = some c
    ∧ ∀ t ∈ ts, t ∈ c.implements ∧ ∃ i ∈ r.interfaces, i.typeRef = t
  := by
  rw [h.associations] at found
  obtain ⟨c, registered, recorded⟩ := Option.bind_eq_some_iff.mp found
  obtain ⟨type, here, implemented⟩ := GeneratedClass.mem_of_associated? recorded
  have remains := qualifiedName_ne_of_complexType? completed keyed registered (by rw [here]; rfl)
  refine ⟨_, h.get?_classes_eq_some_iff.mpr ⟨remains, c, registered, rfl⟩, ?_⟩
  intro t mem
  constructor
  · apply c.mem_implements_bound here
    apply mem_interfacesOf_of_mem_synthesizedOf (implemented t mem)
  · apply exists_mem_of_mem_synthesizedOf (implemented t mem)

/-- In the interface that a builder is for, the interface of the builder is nested as the type
that the report names. -/
theorem exists_nested_of_mem_builders {g' : BuilderGenerator} {o' : Outline}
    (named : ∀ {name p}, input.outline.packages.get? name = some p → p.name = name)
    (built : r.Built s g' o o') {b : BuilderOutline} (registered : b ∈ r.builders.values) :
  ∃ d n, o'.interface? b.interface = some d ∧ d.nested? b.builderName = some n
    ∧ n.package = b.builderType.package ∧ n.name = b.builderType.name
  := by
  obtain ⟨key, found⟩ := SortedMap.mem_values_iff.mp registered
  obtain ⟨wanted, i, mem, -, rfl⟩ := built.exists_ofInterface found
  obtain ⟨c, p, d, -, type, package, found, name, space, -⟩ := h.exists_interface? completed mem
  obtain ⟨d', n, declared, nested, package', name', -⟩ :=
    built.exists_nested wanted completed.nodup_typeRef_interfaces mem found
  use d', n, declared, nested
  constructor
  · rw [package', space, named package]
    apply congrArg TypeRef.package type
  · rw [name', name]
    apply congrArg (fun t : TypeRef => t.name ++ "." ++ s.builderInterfaceName) type

end Settled

end Report

/-! ### A run -/

namespace Sample

/-- In the sample, the three classes are registered and in their slots. -/
theorem consistent :
  outline.Consistent
  where
  named := by
    intro name p found
    have mem := SortedMap.mem_toList_iff.mpr found
    obtain ⟨rfl, rfl⟩ := Prod.mk.inj (List.mem_singleton.mp mem)
    rfl
  keyed := fun _ _ => wellKept.keyed
  registered := by
    rintro ⟨package, name⟩ qualifiedName slot
    obtain ⟨p, found, type⟩ := Option.bind_eq_some_iff.mp slot
    obtain ⟨rfl, rfl⟩ := Prod.mk.inj (List.mem_singleton.mp (SortedMap.mem_toList_iff.mpr found))
    have mem : (name, Slot.class qualifiedName) ∈ [("Audit", .class "sample.Audit"),
        ("Invoice", .class "sample.Invoice"), ("Party", .class "sample.Party")] :=
      SortedMap.mem_toList_iff.mpr type
    simp only [List.mem_cons, Prod.mk.injEq, Slot.class.injEq, List.not_mem_nil, or_false] at mem
    rcases mem with ⟨rfl, rfl⟩ | ⟨rfl, rfl⟩ | ⟨rfl, rfl⟩
    · exact ⟨auditClass, rfl, rfl⟩
    · exact ⟨invoiceClass, rfl, rfl⟩
    · exact ⟨partyClass, rfl, rfl⟩
  occupied := by
    intro name c found
    rcases mem_of_get?_classes found with ⟨rfl, rfl⟩ | ⟨rfl, rfl⟩ | ⟨rfl, rfl⟩
    · rfl
    · rfl
    · rfl

/-- A generator that has builders declared. -/
def builderGenerator : Generator where
  settings := { generator.settings with declareBuilderInterface := true }

end Sample

namespace Generator

variable {g : Generator} {store : FileStore} {input : Input} {r : Report}

/-- A run that succeeds on a consistent outline leaves a consistent one, with all in it that its
report names. -/
theorem consistent_of_result_run (before : input.outline.Consistent)
    (h : (g.run store input).result = .ok r) :
  (g.run store input).outline.Consistent ∧ r.RefersInto (g.run store input).outline
  := by
  obtain ⟨index, o, -, completed, settled, built⟩ := exists_settled_of_result_run h
  have after := (settled.consistent completed before).of_sameButNested built.sameFrame
    built.sameButNested
  have declared : ∀ i ∈ r.interfaces,
      ((g.run store input).outline.interface? i.typeRef).isSome := by
    intro i mem
    obtain ⟨c, p, d, -, -, -, found, -⟩ := settled.exists_interface? completed mem
    have same := congrArg Option.isSome (built.sameButNested.interface? i.typeRef)
    rw [Option.isSome_map, Option.isSome_map, found] at same
    apply same
  use after
  constructor
  · intro name ts found
    obtain ⟨c, registered, implemented⟩ :=
      settled.exists_class_of_associations completed before.keyed found
    rw [built.sameFrame.classes]
    use c, registered
    intro t mem
    obtain ⟨implements, i, mem', rfl⟩ := implemented t mem
    use implements, declared i mem'
  · intro i mem t extended
    obtain ⟨j, mem', rfl⟩ :=
      Report.exists_mem_of_synthesized_mem_supertypes completed mem extended
    apply declared j mem'
  · intro b registered
    apply settled.exists_nested_of_mem_builders completed before.named built registered
  · intro t listed
    rw [settled.removed before.keyed] at listed
    obtain ⟨i, mem, rfl⟩ := List.mem_map.mp listed
    have gone : (g.run store input).outline.classes.get? i.placeholder.qualifiedName = none := by
      rw [built.sameFrame.classes, settled.classes, if_pos ⟨i, mem, rfl⟩]
    use gone
    -- In a consistent outline, a class that is not registered is in no slot.
    intro u slot
    obtain ⟨c, registered, -⟩ := after.registered slot
    rw [gone] at registered
    cases registered

/-- The sample stays consistent when builders are declared as well. -/
theorem consistent_sample :
  ∃ r, (Sample.builderGenerator.run {} Sample.input).result = .ok r
    ∧ (Sample.builderGenerator.run {} Sample.input).outline.Consistent
    ∧ r.RefersInto (Sample.builderGenerator.run {} Sample.input).outline
  := by
  obtain ⟨r, ok⟩ : ∃ r, (Sample.builderGenerator.run {} Sample.input).result = .ok r := ⟨_, rfl⟩
  use r, ok
  have before : Sample.input.outline.Consistent := Sample.consistent
  apply consistent_of_result_run before ok

end Generator

end GroupInterfaces
