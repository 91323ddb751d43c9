import GroupInterfaces.Proofs.AccessorNames
import GroupInterfaces.Proofs.Hierarchy

/-!
# The hierarchy of builders

Fluent builders mirror the interfaces that they are for. The builder of an interface takes a value
for each field with a getter, and extends the builders of the interfaces of the run that its own
interface extends. So whatever interface of the run can be reached from an interface, its builder
can be reached from the builder of the latter, which thereby takes the values of the fields of all
of them.
-/

namespace GroupInterfaces

/-- The method by which a builder of a type takes the value of a field that has a getter. -/
def Field.withMethod (f : Field) (builderType : TypeRef) (getter : Method) : Method where
  name := "with" ++ f.stem
  returnType := builderType.qualifiedName
  params := [{ name := "value", type := getter.returnType }]

theorem TypeRef.nested_inj {t u : TypeRef} {name : String} :
  t.nested name = u.nested name ↔ t = u
  := by
  constructor
  · intro same
    obtain ⟨packages, names⟩ := TypeRef.mk.inj same
    have outer : t.name = u.name := by simpa [String.append_assoc] using names
    calc t = ⟨t.package, t.name⟩ := rfl
      _ = u := by rw [packages, outer]
  · rintro rfl
    rfl

/-! ### Builders that mirror interfaces -/

namespace Report

section

variable (r : Report) (name : String) (o : Outline)

/-- The type is that of the builder of an interface of the run, which is declared in the outline
as told. -/
def DeclaresBuilder (b : TypeRef) (n : InterfaceDecl) : Prop :=
  ∃ i ∈ r.interfaces, b = i.typeRef.nested name
    ∧ (BuilderOutline.ofInterface name i).declaration? o = some n

/-- A builder extends a type. -/
def BuilderExtends (b c : TypeRef) : Prop :=
  ∃ n, r.DeclaresBuilder name o b n ∧ c ∈ n.supertypes

/-- A method is declared on a builder, or on one that can be reached from it by going from builders
to what they extend. -/
def BuilderTakes (b : TypeRef) (m : Method) : Prop :=
  ∃ c n, Relation.ReflTransGen (r.BuilderExtends name o) b c ∧ r.DeclaresBuilder name o c n
    ∧ m ∈ n.methods

/-- An interface has the accessors that a class has for its fields. Its builder has a method for
each of the getters, extends the builders of those interfaces of the run whose qualified names are
those of types that the interface extends, and extends nothing else and nothing twice. -/
structure Mirrors (s : Settings) (c : GeneratedClass) (i : SynthesizedInterface)
    (d n : InterfaceDecl) : Prop where
  accessors : d.methods = i.publishedFields.flatMap fun f => (c.accessors s f).methods
  methods : n.methods = i.publishedFields.filterMap fun f =>
    (c.accessors s f).getter.map (f.withMethod (i.typeRef.nested s.builderInterfaceName))
  extends_iff : ∀ j ∈ r.interfaces, j.typeRef.nested s.builderInterfaceName ∈ n.supertypes
    ↔ ∃ t ∈ d.supertypes, t.qualifiedName = j.typeRef.qualifiedName
  only : ∀ b ∈ n.supertypes, ∃ j ∈ r.interfaces, b = j.typeRef.nested s.builderInterfaceName
  once : n.supertypes.Nodup

/-- The builders of a run mirror its interfaces: each has one, and the builder takes what those of
the interfaces take that can be reached. -/
structure MirroredByBuilders (s : Settings) (before after : Outline) : Prop where
  entries : r.builders.toList.Perm (r.interfaces.map fun i =>
    (i.typeRef.qualifiedName, .ofInterface s.builderInterfaceName i))
  mirrors : ∀ i ∈ r.interfaces, ∃ c d n, before.classForGroup? i.name = some c
    ∧ after.interface? i.typeRef = some d ∧ d.nested? s.builderInterfaceName = some n
    ∧ r.Mirrors s c i d n
  takes : ∀ i ∈ r.interfaces, ∀ j ∈ r.interfaces,
    Relation.ReflTransGen (r.Extends after) i.typeRef j.typeRef →
    ∀ n, (BuilderOutline.ofInterface s.builderInterfaceName j).declaration? after = some n →
      ∀ m ∈ n.methods, r.BuilderTakes s.builderInterfaceName after
        (i.typeRef.nested s.builderInterfaceName) m

end

/-! ### Builders by name -/

namespace Built

variable {s : Settings} {g : BuilderGenerator} {r : Report} {o o' : Outline}
  (h : r.Built s g o o') (wanted : s.declareBuilderInterface = true)
  (distinct : (r.interfaces.map (·.typeRef.qualifiedName)).Nodup)
include h wanted distinct

/-- Interfaces with qualified names of their own all have a builder. -/
theorem toList_builders_perm :
  r.builders.toList.Perm (r.interfaces.map fun i =>
    (i.typeRef.qualifiedName, .ofInterface s.builderInterfaceName i))
  := by
  rw [h.builders_eq_ofList wanted]
  apply SortedMap.toList_ofList_perm
  rw [List.map_map]
  apply distinct

theorem get?_builders_eq_some_iff {name : String} {b : BuilderOutline} :
  r.builders.get? name = some b ↔ ∃ i ∈ r.interfaces, i.typeRef.qualifiedName = name
    ∧ b = .ofInterface s.builderInterfaceName i
  := by
  rw [← SortedMap.mem_toList_iff, (h.toList_builders_perm wanted distinct).mem_iff, List.mem_map]
  constructor
  · rintro ⟨i, mem, same⟩
    obtain ⟨key, rfl⟩ := Prod.mk.inj same
    exact ⟨i, mem, key, rfl⟩
  · rintro ⟨i, mem, rfl, rfl⟩
    use i, mem

/-- The builders that a builder extends are those of interfaces with the qualified names of what
its own interface extends. -/
theorem mem_superBuilders_iff {i : SynthesizedInterface} {options : BuilderOptions}
    {associations : Associations} {b : TypeRef} :
  b ∈ BuilderRequest.superBuilders
      { builder := .ofInterface s.builderInterfaceName i, builders := r.builders
        associations, options }
    ↔ ∃ j ∈ r.interfaces, b = j.typeRef.nested s.builderInterfaceName
      ∧ ∃ t ∈ i.supertypes, t.typeRef.qualifiedName = j.typeRef.qualifiedName
  := by
  rw [BuilderRequest.superBuilders, List.mem_filterMap]
  constructor
  · rintro ⟨t, mem, answer⟩
    obtain ⟨_, registered, rfl⟩ := Option.map_eq_some_iff.mp answer
    obtain ⟨j, mem', name, rfl⟩ := (h.get?_builders_eq_some_iff wanted distinct).mp registered
    obtain ⟨t, extended, rfl⟩ := List.mem_map.mp mem
    exact ⟨j, mem', rfl, t, extended, name.symm⟩
  · rintro ⟨j, mem, rfl, t, mem', name⟩
    use t.typeRef, List.mem_map_of_mem mem'
    rw [(h.get?_builders_eq_some_iff wanted distinct).mpr ⟨j, mem, name.symm, rfl⟩,
      Option.map_some]
    rfl

end Built

end Report

/-! ### A run -/

/-- In the sample of two model groups, the two classes are registered under their names. -/
theorem Sample.keyed_dealInput :
  dealInput.outline.Keyed
  := Outline.keyed_iff.mpr (by decide)

namespace Generator

variable {g : Generator} {store : FileStore} {input : Input} {index : Episode.Index} {r : Report}
  {outcome : Outcome} {i j : SynthesizedInterface} {o o' : Outline}

theorem Completed.nodup_qualifiedName_interfaces (h : Completed g input index r outcome)
    (keyed : input.outline.Keyed) :
  (r.interfaces.map (·.typeRef.qualifiedName)).Nodup
  := by
  have same : r.interfaces.map (·.placeholder.qualifiedName)
      = r.interfaces.map (·.typeRef.qualifiedName) := by
    apply List.map_congr_left
    intro i mem
    rw [(h.declaration_of_mem_interfaces mem).2.2.1]
  rw [← same]
  apply h.nodup_placeholder_interfaces keyed

section

variable (completed : Completed g input index r outcome)
  (settled : r.Settled g.settings input index o)
  (built : r.Built g.settings .fluent o outcome.outline) (keyed : input.outline.Keyed)
  (wanted : g.settings.declareBuilderInterface = true)
include completed settled built keyed wanted

/-- The builder that is nested in an interface mirrors it. -/
theorem exists_mirrors (mem : i ∈ r.interfaces) :
  ∃ c d n, input.outline.classForGroup? i.name = some c
    ∧ outcome.outline.interface? i.typeRef = some d
    ∧ d.nested? g.settings.builderInterfaceName = some n ∧ r.Mirrors g.settings c i d n
  := by
  have distinct := completed.nodup_qualifiedName_interfaces keyed
  obtain ⟨c, p, d, placeholder, -, -, found, -, -, methods⟩ :=
    settled.exists_interface? completed mem
  obtain ⟨d', n, found', nested, own, -⟩ :=
    built.exists_built wanted completed.nodup_typeRef_interfaces mem found
  -- Interfaces have qualified names of their own, so no later builder has replaced this one.
  have registered : .ofInterface g.settings.builderInterfaceName i ∈ r.builders.values :=
    SortedMap.mem_values_iff.mpr
      ⟨_, (built.get?_builders_eq_some_iff wanted distinct).mpr ⟨i, mem, rfl, rfl⟩⟩
  have fluent := own registered
  rw [BuilderGenerator.built, BuilderRequest.fluent, InterfaceDecl.foldl_addSupertype_eq] at fluent
  have taken : n.methods = i.publishedFields.filterMap
      (fluentMethod? (d.nesting g.settings.builderInterfaceName)
        (i.typeRef.nested g.settings.builderInterfaceName).qualifiedName) := by
    rw [fluent]
    apply List.nil_append
  have extended : ∀ b, b ∈ n.supertypes ↔ ∃ j ∈ r.interfaces,
      b = j.typeRef.nested g.settings.builderInterfaceName
        ∧ ∃ t ∈ i.supertypes, t.typeRef.qualifiedName = j.typeRef.qualifiedName := by
    intro b
    rw [fluent, ← built.mem_superBuilders_iff wanted distinct]
    apply mem_foldl_addNew_iff.trans (or_iff_right List.not_mem_nil)
  obtain ⟨d'', found'', same⟩ := built.exists_methods_eq found
  obtain rfl := Option.some.inj (found''.symm.trans found')
  use c, d'', n, placeholder, found', nested
  constructor
  · rw [same, methods]
  · rw [taken]
    apply List.filterMap_congr
    intro f mem'
    have accessors : (d.nesting g.settings.builderInterfaceName).methods
        = i.publishedFields.flatMap fun f => (c.accessors g.settings f).methods := methods
    apply GeneratedClass.fluentMethod?_eq _ accessors mem'
  · intro j mem'
    simp only [extended, completed.mem_supertypes_iff mem found', exists_exists_and_eq_and]
    constructor
    · rintro ⟨k, -, same, super⟩
      rw [TypeRef.nested_inj.mp same]
      apply super
    · intro super
      use j, mem', rfl
  · intro b super
    obtain ⟨j, mem', type, -⟩ := (extended b).mp super
    use j, mem', type
  · rw [fluent]
    apply nodup_foldl_addNew List.nodup_nil

/-- Where an interface of the run extends another one, so does its builder. -/
theorem builderExtends_of_extends (mem : i ∈ r.interfaces) (mem' : j ∈ r.interfaces)
    (edge : r.Extends outcome.outline i.typeRef j.typeRef) :
  r.BuilderExtends g.settings.builderInterfaceName outcome.outline
    (i.typeRef.nested g.settings.builderInterfaceName)
    (j.typeRef.nested g.settings.builderInterfaceName)
  := by
  obtain ⟨c, d, n, -, found, nested, mirrors⟩ :=
    exists_mirrors completed settled built keyed wanted mem
  obtain ⟨d', found', extended⟩ := edge.extended
  obtain rfl := Option.some.inj (found'.symm.trans found)
  use n
  constructor
  · use i, mem, rfl
    exact Option.bind_eq_some_iff.mpr ⟨d', found, nested⟩
  · apply (mirrors.extends_iff j mem').mpr
    use j.typeRef, extended

/-- Going from interface to interface, one goes from builder to builder. -/
theorem reflTransGen_builderExtends {t : TypeRef}
    (path : Relation.ReflTransGen (r.Extends outcome.outline) i.typeRef t)
    (mem' : j ∈ r.interfaces) (type : j.typeRef = t) :
  Relation.ReflTransGen (r.BuilderExtends g.settings.builderInterfaceName outcome.outline)
    (i.typeRef.nested g.settings.builderInterfaceName)
    (j.typeRef.nested g.settings.builderInterfaceName)
  := by
  induction path generalizing j with
  | refl =>
      rw [type]
  | tail _ edge ih =>
      obtain ⟨k, memₖ, rfl⟩ := edge.synthesized
      rw [← type] at edge
      apply (ih memₖ rfl).tail
      apply builderExtends_of_extends completed settled built keyed wanted memₖ mem' edge

end

/-- In a run with fluent builders that succeeds, the builders mirror the interfaces, provided that
classes are registered under their qualified names. -/
theorem mirroredByBuilders_of_result_run (keyed : input.outline.Keyed)
    (wanted : g.settings.declareBuilderInterface = true) (fluent : g.builders = .fluent)
    (h : (g.run store input).result = .ok r) :
  r.MirroredByBuilders g.settings input.outline (g.run store input).outline
  := by
  obtain ⟨index, o, -, completed, settled, built⟩ := exists_settled_of_result_run h
  rw [fluent] at built
  constructor
  · apply built.toList_builders_perm wanted (completed.nodup_qualifiedName_interfaces keyed)
  · intro i mem
    apply exists_mirrors completed settled built keyed wanted mem
  · intro i _ j mem' path n declared m offered
    have path' := reflTransGen_builderExtends completed settled built keyed wanted path mem' rfl
    exact ⟨_, n, path', ⟨j, mem', rfl, declared⟩, offered⟩

/-- In the sample of two model groups, the builder of the one takes what that of the other
takes. -/
theorem mirroredByBuilders_sample :
  ∃ r, (Sample.builderGenerator.run {} Sample.dealInput).result = .ok r
    ∧ r.MirroredByBuilders Sample.builderGenerator.settings Sample.dealInput.outline
      (Sample.builderGenerator.run {} Sample.dealInput).outline
    ∧ r.BuilderTakes Sample.builderGenerator.settings.builderInterfaceName
      (Sample.builderGenerator.run {} Sample.dealInput).outline ⟨"sample", "Deal.BuildSupport"⟩
      { name := "withName", returnType := "sample.Party.BuildSupport"
        params := [{ name := "value", type := "String" }] }
  := by
  obtain ⟨r, ok, made⟩ : ∃ r, (Sample.builderGenerator.run {} Sample.dealInput).result = .ok r
      ∧ r.interfaces.map (·.typeRef) = [⟨"sample", "Deal"⟩, ⟨"sample", "Party"⟩] :=
    ⟨_, rfl, rfl⟩
  have mirrored :=
    mirroredByBuilders_of_result_run Sample.keyed_dealInput rfl rfl ok
  obtain ⟨i, mem, deal⟩ : ∃ i ∈ r.interfaces, i.typeRef = ⟨"sample", "Deal"⟩ := by
    apply List.mem_map.mp
    simp [made]
  obtain ⟨j, mem', party⟩ : ∃ j ∈ r.interfaces, j.typeRef = ⟨"sample", "Party"⟩ := by
    apply List.mem_map.mp
    simp [made]
  have edge : r.Extends (Sample.builderGenerator.run {} Sample.dealInput).outline
      i.typeRef j.typeRef := by
    rw [deal, party]
    exact ⟨⟨i, mem, deal⟩, _, rfl, List.mem_cons_self⟩
  have takes := mirrored.takes i mem j mem' (.single edge)
  simp only [BuilderOutline.declaration?, BuilderOutline.ofInterface, deal, party] at takes
  exact ⟨r, ok, mirrored, takes _ rfl _ List.mem_cons_self⟩

end Generator

end GroupInterfaces
