import GroupInterfaces.Proofs.Associations
import GroupInterfaces.Proofs.Nesting
import GroupInterfaces.Proofs.Parts
import GroupInterfaces.Proofs.Outcome

/-!
# What a run leaves behind

Behind the removal of placeholders, the outline of a run is settled: its slots, its packages and
its classes are functions of the outline before the run and of the interfaces of the report. What
comes then concerns builders only, and changes nothing but what is nested in these interfaces.
-/

namespace GroupInterfaces

/-! ### Placeholders by name -/

/-- Classes are registered under their qualified names. -/
def Outline.Keyed (o : Outline) : Prop :=
  ∀ name c, o.classes.get? name = some c → c.qualifiedName = name

theorem Outline.keyed_iff {o : Outline} :
  o.Keyed ↔ ∀ e ∈ o.classes.toList, e.2.qualifiedName = e.1
  := by
  constructor
  · rintro keyed ⟨name, c⟩ mem
    apply keyed name c (SortedMap.mem_toList_iff.mp mem)
  · intro entries name c found
    apply entries (name, c) (SortedMap.mem_toList_iff.mpr found)

namespace Outline.Keyed

variable {o : Outline} {d e : GroupDecl} {t u : TypeRef}

/-- The placeholder of a group is registered under the qualified name of its place. -/
theorem exists_placeholder (h : o.Keyed) (place : o.place? d = some t) :
  ∃ c, o.classForGroup? d.name = some c ∧ c.typeRef = t ∧ c.component = .group d.name
    ∧ o.classes.get? t.qualifiedName = some c
  := by
  obtain ⟨c, found, rfl⟩ := Option.map_eq_some_iff.mp place
  obtain ⟨name, registered, component⟩ := registered_of_classForGroup? found
  have key : c.typeRef.qualifiedName = name := h name c registered
  rw [key]
  use c, found, rfl, component

/-- A place is told by its qualified name. -/
theorem eq_of_qualifiedName (h : o.Keyed) (place : o.place? d = some t)
    (place' : o.place? e = some u) (same : t.qualifiedName = u.qualifiedName) :
  t = u
  := by
  obtain ⟨c, -, type, -, registered⟩ := h.exists_placeholder place
  obtain ⟨c', -, type', -, registered'⟩ := h.exists_placeholder place'
  rw [same, registered'] at registered
  rw [← type, ← type', Option.some.inj registered]

end Outline.Keyed

/-! ### The interfaces of a report -/

theorem Report.mem_interfaces_iff {r : Report} {i : SynthesizedInterface} :
  i ∈ r.interfaces ↔ ∃ kind group, (r.interfaceSet kind).get? group = some i
  := by
  rw [interfaces, List.mem_append, SortedMap.mem_values_iff, SortedMap.mem_values_iff]
  constructor
  · rintro (⟨group, found⟩ | ⟨group, found⟩)
    · use .modelGroup, group, found
    · use .attributeGroup, group, found
  · rintro ⟨kind, group, found⟩
    cases kind with
    | modelGroup => apply Or.inl ⟨group, found⟩
    | attributeGroup => apply Or.inr ⟨group, found⟩

namespace Generator

namespace Completed

variable {g : Generator} {input : Input} {index : Episode.Index} {r : Report}
  {outcome : Outcome} {i : SynthesizedInterface} {d : GroupDecl} {t : TypeRef}

variable (h : Completed g input index r outcome)
include h

/-- Each interface of a report is that of a declaration, and has its place. -/
theorem declaration_of_mem_interfaces (mem : i ∈ r.interfaces) :
  i.declaration ∈ input.schema.pending index
    ∧ input.outline.place? i.declaration = some i.typeRef ∧ i.placeholder = i.typeRef
    ∧ ∃ j, input.outline.interfaceFor? i.declaration = some j
      ∧ i.publishedFields = j.publishedFields
  := by
  obtain ⟨kind, group, found⟩ := Report.mem_interfaces_iff.mp mem
  obtain ⟨d, mem, -, j, interface, rfl⟩ := h.get?_interfaceSet_eq_some_iff.mp found
  obtain rfl : j.declaration = d := Outline.declaration_of_interfaceFor? interface
  have place : input.outline.place? j.declaration = some j.typeRef :=
    Outline.place?_of_interfaceFor? interface
  have placeholder : j.placeholder = j.typeRef := Outline.placeholder_of_interfaceFor? interface
  exact ⟨SchemaSet.mem_pending_iff.mpr ⟨kind, mem⟩, place, placeholder, j, interface, rfl⟩

/-- For each place of a declaration there is an interface. -/
theorem exists_mem_interfaces (mem : d ∈ input.schema.pending index)
    (place : input.outline.place? d = some t) :
  ∃ i ∈ r.interfaces, i.declaration = d ∧ i.typeRef = t
  := by
  obtain ⟨kind, mem⟩ := SchemaSet.mem_pending_iff.mp mem
  obtain ⟨j, interface, type⟩ := Outline.interfaceFor?_of_place? place
  have found := h.get?_interfaceSet_eq_some_iff.mpr ⟨d, mem, rfl, j, interface, rfl⟩
  refine ⟨_, Report.mem_interfaces_iff.mpr ⟨kind, d.name, found⟩, ?_, type⟩
  apply Outline.declaration_of_interfaceFor? interface

theorem typeRef_ne_iff :
  (∀ i ∈ r.interfaces, i.typeRef ≠ t)
    ↔ ∀ d ∈ input.schema.pending index, input.outline.place? d ≠ some t
  := by
  constructor
  · intro apart d mem place
    obtain ⟨i, mem, -, type⟩ := h.exists_mem_interfaces mem place
    apply apart i mem type
  · rintro apart i mem rfl
    obtain ⟨mem, place, -⟩ := h.declaration_of_mem_interfaces mem
    apply apart _ mem place

theorem nodup_typeRef_interfaces :
  (r.interfaces.map (·.typeRef)).Nodup
  := by
  have distinct := h.accepts.nodup_interface_typeRef
  rw [SchemaSet.pending, List.filterMap_append, List.map_append] at distinct
  have perm : ∀ kind, ((r.interfaceSet kind).values.map (·.typeRef)).Perm
      (((input.schema.unpublished index kind).filterMap input.outline.interfaceFor?).map
        (·.typeRef)) := by
    intro kind
    rw [h.sets]
    apply (acceptsAll_unpublished h.accepts kind).map_typeRef_values_link_perm index
  rw [Report.interfaces, List.map_append]
  apply ((perm .modelGroup).append (perm .attributeGroup)).nodup_iff.mpr distinct

/-- Where classes are registered under their qualified names, each placeholder has a name of its
own. -/
theorem nodup_placeholder_interfaces (keyed : input.outline.Keyed) :
  (r.interfaces.map (·.placeholder.qualifiedName)).Nodup
  := by
  have apart := List.pairwise_map.mp h.nodup_typeRef_interfaces
  apply List.pairwise_map.mpr
  apply apart.imp_of_mem
  intro i j mem mem' apart same
  obtain ⟨-, place, placeholder, -⟩ := h.declaration_of_mem_interfaces mem
  obtain ⟨-, place', placeholder', -⟩ := h.declaration_of_mem_interfaces mem'
  rw [placeholder, placeholder'] at same
  apply apart (keyed.eq_of_qualifiedName place place' same)

end Completed

end Generator

/-! ### Builders -/

/-- The interface of a builder keeps its name, and has no methods but those for the fields. -/
theorem BuilderGenerator.built_new (g : BuilderGenerator) (r : BuilderRequest)
    (d : InterfaceDecl) (package name : String) :
  (g.built r d (.new package name)).package = package
    ∧ (g.built r d (.new package name)).name = name
    ∧ ((g.built r d (.new package name)).methods = []
      ∨ (g.built r d (.new package name)).methods
        = r.builder.fields.filterMap (fluentMethod? d r.builder.builderType.qualifiedName))
  := by
  cases g with
  | fluent =>
      rw [built, BuilderRequest.fluent, InterfaceDecl.foldl_addSupertype_eq]
      exact ⟨rfl, rfl, Or.inr rfl⟩
  | notes taken => exact ⟨rfl, rfl, Or.inl rfl⟩

namespace Report

/-- What becomes of an outline at the end of a run on account of builders: nothing if there are to
be none; else their interfaces are declared, and all of them are built. -/
inductive Built (s : Settings) (g : BuilderGenerator) (r : Report) (o : Outline) :
    Outline → Prop where
  | none (unwanted : s.declareBuilderInterface = false) (builders : r.builders = {}) :
    Built s g r o o
  | all (wanted : s.declareBuilderInterface = true) {o₁ : Outline}
      (declared : o.declareBuilders s.builderInterfaceName {} r.interfaces
        = (.ok r.builders, o₁))
      (ok : (g.buildAll r.builders r.associations s.builderOptions o₁
        r.builders.values).failure = none) :
    Built s g r o (g.buildAll r.builders r.associations s.builderOptions o₁
      r.builders.values).outline

namespace Built

variable {s : Settings} {g : BuilderGenerator} {r : Report} {o o' : Outline}
  {i : SynthesizedInterface} {d : InterfaceDecl} (h : r.Built s g o o')
include h

theorem eq_of_unwanted (unwanted : s.declareBuilderInterface = false) :
  o' = o
  := by
  cases h with
  | none _ _ => rfl
  | all wanted _ _ =>
      rw [unwanted] at wanted
      cases wanted

theorem sameFrame :
  o.SameFrame o'
  := by
  cases h with
  | none _ _ => apply Outline.SameFrame.refl
  | all _ declared _ =>
      apply (Outline.sameFrame_declareBuilders declared).trans
      apply BuilderGenerator.sameFrame_buildAll

theorem sameButNested :
  o.SameButNested o'
  := by
  cases h with
  | none _ _ => apply Outline.SameButNested.refl
  | all _ declared _ =>
      apply (Outline.sameButNested_declareBuilders declared).trans
      apply BuilderGenerator.sameButNested_buildAll

theorem builders_eq_ofList (wanted : s.declareBuilderInterface = true) :
  r.builders = .ofList (r.interfaces.map fun i =>
    (i.typeRef.qualifiedName, .ofInterface s.builderInterfaceName i))
  := by
  cases h with
  | none unwanted _ =>
      rw [unwanted] at wanted
      cases wanted
  | all _ declared _ => apply Outline.builders_of_declareBuilders declared

/-- Each builder is that of an interface, under the qualified name of the interface. -/
theorem exists_ofInterface {name : String} {b : BuilderOutline}
    (found : r.builders.get? name = some b) :
  s.declareBuilderInterface = true
    ∧ ∃ i ∈ r.interfaces, i.typeRef.qualifiedName = name
      ∧ b = .ofInterface s.builderInterfaceName i
  := by
  have wanted : s.declareBuilderInterface = true := by
    cases h with
    | none _ builders =>
        rw [builders] at found
        cases found
    | all wanted _ _ => apply wanted
  use wanted
  rw [h.builders_eq_ofList wanted, SortedMap.get?_ofList] at found
  obtain ⟨e, last, rfl⟩ := Option.map_eq_some_iff.mp found
  have key := List.find?_some last
  have entry := List.mem_reverse.mp (List.mem_of_find?_eq_some last)
  obtain ⟨i, mem, rfl⟩ := List.mem_map.mp entry
  use i, mem, of_decide_eq_true key

theorem nodup_interface_builders :
  (r.builders.values.map (·.interface)).Nodup
  := by
  have keys : ∀ e ∈ r.builders.toList, e.2.interface.qualifiedName = e.1 := by
    rintro ⟨name, b⟩ mem
    obtain ⟨-, i, -, key, rfl⟩ := h.exists_ofInterface (SortedMap.mem_toList_iff.mp mem)
    apply key
  rw [SortedMap.values, List.map_map]
  apply List.pairwise_map.mpr
  apply (List.pairwise_map.mp r.builders.nodup_keys).imp_of_mem
  intro e e' mem mem' apart same
  apply apart
  rw [← keys e mem, ← keys e' mem']
  apply congrArg TypeRef.qualifiedName same

/-- If builders are wanted, the interface of a builder is nested in each interface of the report,
and is changed to what the generator makes of it if the builder is that of the interface. -/
theorem exists_modifyNested (wanted : s.declareBuilderInterface = true)
    (distinct : (r.interfaces.map (·.typeRef)).Nodup) (mem : i ∈ r.interfaces)
    (found : o.interface? i.typeRef = some d) :
  ∃ f, o'.interface? i.typeRef
      = some ((d.nesting s.builderInterfaceName).modifyNested s.builderInterfaceName f)
    ∧ (.ofInterface s.builderInterfaceName i ∈ r.builders.values →
      f = g.built
        { builder := .ofInterface s.builderInterfaceName i, builders := r.builders
          associations := r.associations, options := s.builderOptions }
        (d.nesting s.builderInterfaceName))
    ∧ (.ofInterface s.builderInterfaceName i ∉ r.builders.values → f = id)
  := by
  have entry : ∀ {name b}, r.builders.get? name = some b → ∃ i ∈ r.interfaces,
      i.typeRef.qualifiedName = name ∧ b = .ofInterface s.builderInterfaceName i :=
    fun found => (h.exists_ofInterface found).2
  have interfaces := h.nodup_interface_builders
  cases h with
  | none unwanted _ =>
      rw [unwanted] at wanted
      cases wanted
  | @all _ o₁ declared ok =>
      have nesting : o₁.interface? i.typeRef = some (d.nesting s.builderInterfaceName) := by
        rw [Outline.interface?_declareBuilders distinct declared mem, found, Option.map_some]
      by_cases own : .ofInterface s.builderInterfaceName i ∈ r.builders.values
      · have built := BuilderGenerator.interface?_buildAll r.builders r.associations
          s.builderOptions ok interfaces own
        have type : (BuilderOutline.ofInterface s.builderInterfaceName i).interface = i.typeRef :=
          rfl
        rw [type, nesting, Option.map_some] at built
        exact ⟨_, built, fun _ => rfl, fun other => (other own).elim⟩
      · -- Builders are kept by qualified names, which interfaces of different packages can share.
        -- An interface whose builder was replaced has what is nested in it left without members.
        have others : ∀ b ∈ r.builders.values, b.interface ≠ i.typeRef := by
          intro b registered same
          obtain ⟨name, answer⟩ := SortedMap.mem_values_iff.mp registered
          obtain ⟨j, mem', -, rfl⟩ := entry answer
          obtain rfl : j = i := List.inj_on_of_nodup_map distinct mem' mem same
          apply own registered
        use id
        rw [BuilderGenerator.interface?_buildAll_of_forall_ne _ _ _ others,
          InterfaceDecl.modifyNested_id]
        exact ⟨nesting, fun other => (own other).elim, fun _ => rfl⟩

/-- If builders are wanted, the interface of a builder is nested in each interface of the report.
It has what the generator made of it if the builder is that of the interface, and no members
otherwise. -/
theorem exists_built (wanted : s.declareBuilderInterface = true)
    (distinct : (r.interfaces.map (·.typeRef)).Nodup) (mem : i ∈ r.interfaces)
    (found : o.interface? i.typeRef = some d) :
  ∃ d' n, o'.interface? i.typeRef = some d' ∧ d'.nested? s.builderInterfaceName = some n
    ∧ (.ofInterface s.builderInterfaceName i ∈ r.builders.values →
      n = g.built
        { builder := .ofInterface s.builderInterfaceName i, builders := r.builders
          associations := r.associations, options := s.builderOptions }
        (d.nesting s.builderInterfaceName)
        (.new d.package (d.name ++ "." ++ s.builderInterfaceName)))
    ∧ (.ofInterface s.builderInterfaceName i ∉ r.builders.values →
      n = .new d.package (d.name ++ "." ++ s.builderInterfaceName))
  := by
  obtain ⟨f, found', own, other⟩ := h.exists_modifyNested wanted distinct mem found
  refine ⟨_, f (.new d.package (d.name ++ "." ++ s.builderInterfaceName)), found', ?_, ?_, ?_⟩
  · exact (InterfaceDecl.nested?_modifyNested _ _ _).trans
      (congrArg (Option.map _) (d.nested?_nesting _))
  · intro registered
    rw [own registered]
  · intro replaced
    rw [other replaced, id]

/-- The interface of a builder is named for the interface that it is nested in, and has no methods
but those for the published fields. -/
theorem exists_nested (wanted : s.declareBuilderInterface = true)
    (distinct : (r.interfaces.map (·.typeRef)).Nodup) (mem : i ∈ r.interfaces)
    (found : o.interface? i.typeRef = some d) :
  ∃ d' n, o'.interface? i.typeRef = some d' ∧ d'.nested? s.builderInterfaceName = some n
    ∧ n.package = d.package ∧ n.name = d.name ++ "." ++ s.builderInterfaceName
    ∧ (n.methods = [] ∨ n.methods = i.publishedFields.filterMap
      (fluentMethod? d (i.typeRef.nested s.builderInterfaceName).qualifiedName))
  := by
  obtain ⟨d', n, found', nested, own, other⟩ := h.exists_built wanted distinct mem found
  use d', n, found', nested
  by_cases registered : .ofInterface s.builderInterfaceName i ∈ r.builders.values
  · rw [own registered]
    apply g.built_new
  · rw [other registered]
    exact ⟨rfl, rfl, Or.inl rfl⟩

end Built

/-! ### The settled outline -/

/-- What a report has for the groups that a type uses. -/
def resolutions (r : Report) (input : Input) (index : Episode.Index) (groups : ContentGroups) :
    List (QName × Resolution) :=
  groups.resolutions (r.interfaceSet .modelGroup) (r.interfaceSet .attributeGroup) index
    input.environment

/-- What the outline of a run that succeeds is before builders are declared, in terms of what the
run was given and of the interfaces of its report. -/
structure Settled (s : Settings) (input : Input) (index : Episode.Index) (r : Report)
    (o : Outline) : Prop where
  declared : ∀ d ∈ input.schema.pending index, ∀ {t}, input.outline.place? d = some t →
    o.slot? t = (input.outline.linkedFor? s input.schema index d).map .interface
  kept : ∀ {t}, (∀ d ∈ input.schema.pending index, input.outline.place? d ≠ some t) →
    o.slot? t = input.outline.slot? t
  packages : ∀ name, (o.packages.get? name).map Package.bare
    = (input.outline.packages.get? name).map fun p =>
      (p.withoutFactoryMethods (factoryMethods r.interfaces name)).bare
  classes : ∀ name, o.classes.get? name
    = if ∃ i ∈ r.interfaces, i.placeholder.qualifiedName = name then none
      else (input.outline.classes.get? name).map
        (·.bound fun groups => interfacesOf (r.resolutions input index groups))
  associations : ∀ name, r.associations.byClass.get? name
    = (input.outline.classes.get? name).bind
      (·.associated? fun groups => synthesizedOf (r.resolutions input index groups))
  removed : input.outline.Keyed → r.removedClasses = r.interfaces.map (·.placeholder)

/-- In the place of each interface of a report, the interface is declared under the name of the
placeholder, with the accessors that the placeholder has for the published fields. -/
theorem Settled.exists_interface? {s : Settings} {g : Generator} {input : Input}
    {index : Episode.Index} {r : Report} {o : Outline} {outcome : Outcome}
    {i : SynthesizedInterface} (h : r.Settled s input index o)
    (completed : g.Completed input index r outcome) (mem : i ∈ r.interfaces) :
  ∃ c p d, input.outline.classForGroup? i.name = some c ∧ c.typeRef = i.typeRef
    ∧ input.outline.packages.get? c.package = some p ∧ o.interface? i.typeRef = some d
    ∧ d.name = c.name ∧ d.package = p.name
    ∧ d.methods = i.publishedFields.flatMap fun f => (c.accessors s f).methods
  := by
  obtain ⟨pending, place, -, j, interface, fields⟩ := completed.declaration_of_mem_interfaces mem
  obtain ⟨d, linked⟩ := Option.isSome_iff_exists.mp
    (completed.accepts.of_mem pending).isSome_linkedFor?
  have slot := h.declared i.declaration pending place
  rw [linked] at slot
  obtain ⟨c, p, found, package, rfl⟩ := Outline.linkedFor?_inv linked
  obtain ⟨c', found', rfl⟩ := Outline.interfaceFor?_eq_some_iff.mp interface
  obtain rfl := Option.some.inj (found.symm.trans found')
  rw [Outline.place?, found] at place
  have declared := o.interface?_eq i.typeRef
  rw [slot] at declared
  rw [fields]
  exact ⟨c, p, _, found, Option.some.inj place, package, declared, rfl, rfl, rfl⟩

end Report

namespace Generator

variable {g : Generator} {store : FileStore} {input : Input} {index : Episode.Index} {r : Report}

/-- The end of a run that succeeds, step by step. -/
theorem result_finish_inv {cur : Outline} {modelGroups attributeGroups : InterfaceSet}
    (h : (g.finish input index cur modelGroups attributeGroups).result = .ok r) :
  r.interfaces = modelGroups.values ++ attributeGroups.values
    ∧ r.associations = (cur.bind input.schema modelGroups attributeGroups index
      input.environment).associations
    ∧ r.removedClasses = ((cur.bind input.schema modelGroups attributeGroups index
      input.environment).outline.removePlaceholders r.interfaces).1
    ∧ r.Built g.settings g.builders ((cur.bind input.schema modelGroups attributeGroups index
      input.environment).outline.removePlaceholders r.interfaces).2
      (g.finish input index cur modelGroups attributeGroups).outline
  := by
  revert h
  simp only [finish]
  split
  · next wanted =>
      split
      · intro h
        cases h
      · next builders o declare =>
          split
          · intro h
            cases h
          · next built =>
              intro h
              cases h
              exact ⟨rfl, rfl, rfl, .all wanted declare built⟩
  · next unwanted =>
      intro h
      cases h
      exact ⟨rfl, rfl, rfl, .none (by simpa using unwanted) rfl⟩

/-- A run that succeeds settles the outline, and has builders declared and built then. -/
theorem exists_settled_of_result_run (h : (g.run store input).result = .ok r) :
  ∃ index o, (g.upstream.load store input.environment).1 = .ok index
    ∧ Completed g input index r (g.run store input) ∧ r.Settled g.settings input index o
    ∧ r.Built g.settings g.builders o (g.run store input).outline
  := by
  obtain ⟨index, load, completed⟩ := completed_of_result_run h
  obtain ⟨upstream, run⟩ := run_of_load load
  obtain ⟨cur, overlaid, finish⟩ :=
    runWith_of_acceptsAll (g := { g with upstream }) completed.accepts
  rw [run, finish] at h ⊢
  obtain ⟨interfaces, associations, removed, built⟩ := result_finish_inv h
  rw [run, finish] at completed
  refine ⟨index, _, load, completed, ?_, built⟩
  have sets : ∀ kind, r.interfaceSet kind
      = (input.outline.interfaceSet (input.schema.unpublished index kind)).link index :=
    completed.sets
  constructor
  · intro d mem t place
    rw [Outline.slot?_removePlaceholders, Outline.slot?_bind, overlaid.declared d mem place]
  · intro t untaken
    rw [Outline.slot?_removePlaceholders, Outline.slot?_bind, overlaid.kept untaken]
  · -- Overlaying changes types only, and the methods are taken from what is not of the types.
    intro name
    rw [Outline.get?_packages_removePlaceholders, Outline.outline_bind,
      Outline.packages_bindClasses]
    have bare := congrArg
      (Option.map fun p => p.withoutFactoryMethods (factoryMethods r.interfaces name))
      (overlaid.frame.packages name)
    rw [Option.map_map, Option.map_map] at bare
    rw [Option.map_map]
    apply bare
  · intro name
    rw [Outline.get?_classes_removePlaceholders_eq, Outline.get?_classes_bind,
      overlaid.frame.classes]
    simp only [Report.resolutions, sets]
  · intro name
    rw [associations, Outline.get?_associations_bind, overlaid.frame.classes]
    simp only [Report.resolutions, sets]
  · intro keyed
    rw [removed]
    apply Outline.removed_eq_map_placeholder (completed.nodup_placeholder_interfaces keyed)
    intro i mem
    obtain ⟨-, place, placeholder, -⟩ := completed.declaration_of_mem_interfaces mem
    obtain ⟨c, -, -, -, registered⟩ := keyed.exists_placeholder place
    rw [SortedMap.contains, Outline.get?_classes_bind, overlaid.frame.classes, placeholder,
      registered]
    rfl

end Generator

end GroupInterfaces
