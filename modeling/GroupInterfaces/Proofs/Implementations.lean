import GroupInterfaces.Proofs.Integrity

/-!
# What classes implement

A class with a complex type refers to groups, under one kind or the other. What stands for a group
is told by the run, by the upstream episode, and by the types that are compiled, in this order. The
class comes to implement what stands for its groups, the run is recorded to have bound it to those
of its own interfaces, and each reference for which there is nothing is a warning.
-/

namespace GroupInterfaces

/-- Adding elements to a list one by one adds those that it does not have, once each. -/
theorem foldl_addNew_eq {α : Type*} [DecidableEq α] (as bs : List α) :
  bs.foldl addNew as = as ++ (bs.filter (· ∉ as)).eraseDups
  := by
  induction bs generalizing as with
  | nil => simp
  | cons b bs ih =>
      rw [List.foldl_cons, ih]
      by_cases old : b ∈ as
      · rw [addNew_of_mem old, List.filter_cons_of_neg (by simpa using old)]
      · have new : addNew as b = as ++ [b] := if_neg old
        have rest : bs.filter (· ∉ as ++ [b]) = (bs.filter (· ∉ as)).filter (fun a => !a == b) := by
          rw [List.filter_filter]
          apply List.filter_congr
          intro b' _
          rw [Bool.eq_iff_iff]
          simp [and_comm]
        rw [new, rest, List.filter_cons_of_pos (by simpa using old), List.eraseDups_cons,
          List.append_assoc, List.singleton_append]

theorem foldl_addNew_nil {α : Type*} [DecidableEq α] (bs : List α) :
  bs.foldl addNew [] = bs.eraseDups
  := by
  rw [foldl_addNew_eq, List.nil_append]
  congr 1
  apply List.filter_eq_self.mpr
  intro b _
  simp

theorem eraseDups_ne_nil_iff {α : Type*} [DecidableEq α] {bs : List α} :
  bs.eraseDups ≠ [] ↔ bs ≠ []
  := by
  cases bs with
  | nil => simp
  | cons b bs => simp [List.eraseDups_cons]

/-! ### References -/

/-- The references of a complex type to groups, each with the kind of group that it means: first
those to attribute groups, and then those that its content has outside of what may be repeated. -/
def ComplexType.references (t : ComplexType) : List (GroupKind × QName) :=
  t.groups.attributeGroups.map (.attributeGroup, ·) ++ t.groups.modelGroups.map (.modelGroup, ·)

/-- What stands for a group of a kind: the interface that the run has made for it; else the one
that was published, if it is compiled; else, for a group that was not published, the compiled type
that has the name which the group would give it. -/
inductive Report.Resolves (r : Report) (index : Episode.Index) (environment : Environment)
    (kind : GroupKind) (group : QName) : Resolution → Prop where
  | synthesized {i : SynthesizedInterface} (made : (r.interfaceSet kind).get? group = some i) :
    Resolves r index environment kind group (.synthesized i.typeRef)
  | published {p : PublishedInterface} (unmade : (r.interfaceSet kind).get? group = none)
      (published : index.get? group = some p) (stamp : p.availability = .compiled) :
    Resolves r index environment kind group (.compiled p.typeRef)
  | notCompiled {p : PublishedInterface} (unmade : (r.interfaceSet kind).get? group = none)
      (published : index.get? group = some p) (stamp : p.availability = .missing) :
    Resolves r index environment kind group (.unavailable (.notCompiled p.typeRef))
  | byName {package : String} (unmade : (r.interfaceSet kind).get? group = none)
      (unpublished : index.get? group = none) (home : Naming.packageName? group.space = some package)
      (compiled : environment.contains ⟨package, Naming.className group.localName⟩ = true) :
    Resolves r index environment kind group
      (.compiled ⟨package, Naming.className group.localName⟩)
  | notFound {package : String} (unmade : (r.interfaceSet kind).get? group = none)
      (unpublished : index.get? group = none) (home : Naming.packageName? group.space = some package)
      (absent : environment.contains ⟨package, Naming.className group.localName⟩ = false) :
    Resolves r index environment kind group
      (.unavailable (.notFound ⟨package, Naming.className group.localName⟩))
  | noPackage (unmade : (r.interfaceSet kind).get? group = none)
      (unpublished : index.get? group = none) (homeless : Naming.packageName? group.space = none) :
    Resolves r index environment kind group (.unavailable .noPackage)

namespace Report

variable {r : Report} {input : Input} {index : Episode.Index} {environment : Environment}
  {kind : GroupKind} {group : QName}

/-- Exactly one thing stands for a group, and it is what resolving the group gives. -/
theorem resolves_iff {resolution : Resolution} :
  r.Resolves index environment kind group resolution
    ↔ resolve (r.interfaceSet kind) index environment group = resolution
  := by
  constructor
  · intro h
    cases h with
    | synthesized made => simp only [resolve, made]
    | published unmade published stamp =>
        simp only [resolve, unmade, published, PublishedInterface.compiled?, stamp]
    | notCompiled unmade published stamp =>
        simp only [resolve, unmade, published, PublishedInterface.compiled?, stamp]
    | byName unmade unpublished home compiled =>
        simp only [resolve, unmade, unpublished, resolveByName, home, compiled, if_true]
    | notFound unmade unpublished home absent =>
        simp [resolve, unmade, unpublished, resolveByName, home, absent]
    | noPackage unmade unpublished homeless =>
        simp only [resolve, unmade, unpublished, resolveByName, homeless]
  · rintro rfl
    rw [resolve]
    cases made : (r.interfaceSet kind).get? group with
    | some i => apply Resolves.synthesized made
    | none =>
        cases published : index.get? group with
        | some p =>
            simp only [PublishedInterface.compiled?]
            cases stamp : p.availability with
            | compiled => apply Resolves.published made published stamp
            | missing => apply Resolves.notCompiled made published stamp
        | none =>
            simp only [resolveByName]
            cases home : Naming.packageName? group.space with
            | none => apply Resolves.noPackage made published home
            | some package =>
                simp only
                cases compiled : environment.contains
                    ⟨package, Naming.className group.localName⟩ with
                | true => apply Resolves.byName made published home compiled
                | false => apply Resolves.notFound made published home compiled

/-- What a report has for the groups that a type refers to, reference by reference. -/
theorem resolutions_eq (t : ComplexType) :
  r.resolutions input index t.groups
    = t.references.map fun (kind, group) =>
      (group, resolve (r.interfaceSet kind) index input.environment group)
  := by
  simp [resolutions, ContentGroups.resolutions, ComplexType.references, Function.comp_def]

theorem synthesizedOf_resolutions (t : ComplexType) :
  synthesizedOf (r.resolutions input index t.groups)
    = t.references.filterMap fun (kind, group) =>
      (resolve (r.interfaceSet kind) index input.environment group).synthesized?
  := by
  simp only [resolutions_eq, synthesizedOf, List.filterMap_map, Function.comp_def]

/-! ### Binding -/

/-- How classes are bound in the outline behind a run, what is recorded of it, and which warnings
there are, if each reference to a group is resolved as given. -/
structure BindsClasses (r : Report) (schema : SchemaSet)
    (resolution : GroupKind → QName → Resolution) (before after : Outline) : Prop where
  bound : ∀ {name c t}, before.classes.get? name = some c → c.complexType? = some t →
    after.classes.get? name = some
      { c with implements := c.implements ++ ((t.references.filterMap fun (kind, group) =>
          (resolution kind group).typeRef?).filter (· ∉ c.implements)).eraseDups }
  associated : ∀ {name ts}, r.associations.byClass.get? name = some ts
    ↔ ts ≠ [] ∧ ∃ c t, before.classes.get? name = some c ∧ c.complexType? = some t
      ∧ ts = (t.references.filterMap fun (kind, group) =>
        (resolution kind group).synthesized?).eraseDups
  others : ∀ {name c}, before.classes.get? name = some c → c.complexType? = none →
    after.classes.get? name
      = if ∃ i ∈ r.interfaces, i.placeholder.qualifiedName = name then none else some c
  warnings : r.warnings = before.classes.toList.flatMap fun (name, c) =>
    (c.complexType?.toList.flatMap ComplexType.references).filterMap fun (kind, group) =>
      (resolution kind group).reason?.map (·.warning schema name group)

end Report

theorem GeneratedClass.associated?_eq_some_iff {c : GeneratedClass}
    {f : ContentGroups → List TypeRef} {ts : List TypeRef} :
  c.associated? f = some ts
    ↔ ∃ t, c.complexType? = some t ∧ f t.groups ≠ [] ∧ ts = (f t.groups).eraseDups
  := by
  rw [associated?]
  cases c.complexType? with
  | none => simp
  | some t =>
      simp only [foldl_addNew_nil, Option.some.injEq, exists_eq_left']
      split
      · next none => simp [none]
      · next some => simp [some, eq_comm]

/-- The warnings of binding, reference by reference. -/
theorem Outline.flatMap_bindable {β : Type*} (o : Outline)
    (f : String → List (GroupKind × QName) → List β) (g : String × ContentGroups → List β)
    (same : ∀ name (t : ComplexType), g (name, t.groups) = f name t.references)
    (nothing : ∀ name, f name [] = []) :
  o.bindable.flatMap g
    = o.classes.toList.flatMap fun (name, c) =>
      f name (c.complexType?.toList.flatMap ComplexType.references)
  := by
  rw [bindable]
  induction o.classes.toList with
  | nil => rfl
  | cons e rest ih =>
      obtain ⟨name, c⟩ := e
      rw [List.flatMap_cons, ← ih]
      cases type : c.complexType? with
      | none => simp [type, nothing]
      | some t => simp [type, same]

namespace Sample

/-- A type that refers to groups in all manners: to some twice, to some under both kinds, and to
one that is no group of the run. -/
def order : ComplexType where
  content := .particle (.group {} .sequence
    [.groupRef {} party.name, .groupRef {} { space := "urn:sample", localName := "stock" },
      .groupRef {} party.name, .groupRef {} audit.name])
  attributeGroups := [audit.name]

/-- The class of the type. -/
def orderClass : GeneratedClass where
  package := "sample"
  name := "Order"
  component := .complexType order
  implements := [{ package := "base", name := "Entity" }]

/-- What a run that binds the class works on. The type of the one group is compiled. -/
def orderInput : Input where
  schema := schema
  outline :=
    { packages := .ofList
        [("sample",
          { name := "sample", space := some "urn:sample"
            types := .ofList
              [("Party", .class "sample.Party"), ("Audit", .class "sample.Audit"),
                ("Order", .class "sample.Order")] })]
      classes := .ofList
        [("sample.Party", partyClass), ("sample.Audit", auditClass),
          ("sample.Order", orderClass)] }
  environment := .ofList ["sample.Stock"]

theorem keyed_orderInput :
  orderInput.outline.Keyed
  := Outline.keyed_iff.mpr (by decide)

end Sample

namespace Generator

variable {g : Generator} {store : FileStore} {input : Input} {r : Report}

/-- Behind a run that succeeds, each class with a complex type implements what it did before, and
behind that what stands for the groups that it refers to. -/
theorem bindsClasses_of_result_run (keyed : input.outline.Keyed)
    (h : (g.run store input).result = .ok r) :
  ∃ index, (g.upstream.load store input.environment).1 = .ok index
    ∧ ∃ resolution : GroupKind → QName → Resolution,
      (∀ kind group, r.Resolves index input.environment kind group (resolution kind group))
      ∧ r.BindsClasses input.schema resolution input.outline (g.run store input).outline
  := by
  obtain ⟨index, o, load, completed, settled, built⟩ := exists_settled_of_result_run h
  refine ⟨index, load, fun kind => resolve (r.interfaceSet kind) index input.environment,
    fun kind group => Report.resolves_iff.mpr rfl, ?_⟩
  constructor
  · intro name c t found type
    have remains := Report.qualifiedName_ne_of_complexType? completed keyed found
      (by rw [type]; rfl)
    rw [built.sameFrame.classes, settled.get?_classes_eq_some_iff]
    use remains, c, found
    simp only [GeneratedClass.bound, type, GeneratedClass.implementing_eq, foldl_addNew_eq,
      Report.resolutions_eq, interfacesOf, List.filterMap_map, Function.comp_def]
  · intro name ts
    rw [settled.associations, Option.bind_eq_some_iff]
    constructor
    · rintro ⟨c, found, recorded⟩
      obtain ⟨t, type, some, rfl⟩ := GeneratedClass.associated?_eq_some_iff.mp recorded
      rw [Report.synthesizedOf_resolutions] at some ⊢
      use eraseDups_ne_nil_iff.mpr some, c, t, found, type
    · rintro ⟨some, c, t, found, type, rfl⟩
      use c, found
      apply GeneratedClass.associated?_eq_some_iff.mpr
      use t, type
      rw [Report.synthesizedOf_resolutions]
      use eraseDups_ne_nil_iff.mp some
  · intro name c found type
    rw [built.sameFrame.classes, settled.classes, found]
    simp only [Option.map_some, GeneratedClass.bound, type]
  · rw [completed.warnings]
    apply Outline.flatMap_bindable input.outline fun name references =>
      references.filterMap fun (kind, group) =>
        (resolve (r.interfaceSet kind) index input.environment group).reason?.map
          (·.warning input.schema name group)
    · intro name t
      have same : r.resolutions input index t.groups = _ := r.resolutions_eq t
      simp only [Report.resolutions] at same
      simp only [warningsOf, same, List.filterMap_map, Function.comp_def]
    · intro name
      rfl

/-- In the sample, the class comes to implement three interfaces beside its own, two of them of
the run, and the name that no model group has is a warning. -/
theorem bindsClasses_order :
  ∃ r, (Sample.generator.run {} Sample.orderInput).result = .ok r
    ∧ (∃ index, ∃ resolution : GroupKind → QName → Resolution,
      (∀ kind group,
        r.Resolves index Sample.orderInput.environment kind group (resolution kind group))
      ∧ r.BindsClasses Sample.orderInput.schema resolution Sample.orderInput.outline
        (Sample.generator.run {} Sample.orderInput).outline)
    ∧ ((Sample.generator.run {} Sample.orderInput).outline.classes.get? "sample.Order").map
        (·.implements.map TypeRef.qualifiedName)
      = some ["base.Entity", "sample.Audit", "sample.Party", "sample.Stock"]
    ∧ r.associations.byClass.get? "sample.Order"
      = some [⟨"sample", "Audit"⟩, ⟨"sample", "Party"⟩]
    ∧ r.warnings.length = 1
  := by
  obtain ⟨r, ok, made⟩ : ∃ r, (Sample.generator.run {} Sample.orderInput).result = .ok r
      ∧ ((Sample.generator.run {} Sample.orderInput).outline.classes.get? "sample.Order").map
          (·.implements.map TypeRef.qualifiedName)
        = some ["base.Entity", "sample.Audit", "sample.Party", "sample.Stock"]
      ∧ r.associations.byClass.get? "sample.Order"
        = some [⟨"sample", "Audit"⟩, ⟨"sample", "Party"⟩]
      ∧ r.warnings.length = 1 := by
    refine ⟨_, rfl, by decide +kernel, by decide +kernel, by decide +kernel⟩
  obtain ⟨index, -, resolution, resolves, binds⟩ :=
    bindsClasses_of_result_run Sample.keyed_orderInput ok
  exact ⟨r, ok, ⟨index, resolution, resolves, binds⟩, made⟩

end Generator

end GroupInterfaces
