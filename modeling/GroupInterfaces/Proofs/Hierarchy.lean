import GroupInterfaces.Proofs.Completion

/-!
# The hierarchy of interfaces

The interface of a group extends those of the groups that it refers to. As these have types of
their own, each step from an interface of a run to one that it extends comes from a reference
between their groups, unless the upstream episode publishes a type that the run makes again. So
the interfaces of a run do not extend each other in a circle as long as the groups do not refer to
each other in one.
-/

namespace GroupInterfaces

/-- Nothing leads back to itself along a relation. -/
def Acyclic {α : Type*} (R : α → α → Prop) : Prop := ∀ a, ¬ Relation.TransGen R a a

/-! ### References between groups -/

/-- The particle is a reference to a group, or there is one in it, and no particle on the way to
the reference may occur more than once. -/
inductive Particle.RefersTo (group : QName) : Particle → Prop where
  | here {occurs : Occurs} (once : occurs.isRepeated = false) :
    RefersTo group (.groupRef occurs group)
  | within {occurs : Occurs} {compositor : Compositor} {particles : List Particle} {p : Particle}
      (once : occurs.isRepeated = false) (mem : p ∈ particles) (h : RefersTo group p) :
    RefersTo group (.group occurs compositor particles)

/-- The group refers to another one: a model group from its body, and an attribute group by
including it. -/
inductive GroupDecl.RefersTo (group : QName) : GroupDecl → Prop where
  | body {d : ModelGroupDecl} {p : Particle} (mem : p ∈ d.group.particles)
      (h : p.RefersTo group) :
    RefersTo group (.model d)
  | inclusion {d : AttributeGroupDecl} (mem : group ∈ d.attributeGroups) :
    RefersTo group (.attribute d)

namespace Particle

variable {group : QName}

theorem mem_groupRefsOf_iff {particles : List Particle} :
  group ∈ groupRefsOf particles ↔ ∃ p ∈ particles, group ∈ groupRefs p
  := by
  induction particles with
  | nil => simp [groupRefsOf]
  | cons p rest ih => simp [groupRefsOf, ih]

theorem mem_groupRefs_of_refersTo {p : Particle} (h : p.RefersTo group) :
  group ∈ groupRefs p
  := by
  induction h with
  | here once => simp [groupRefs, once]
  | within once mem _ ih =>
      simp only [groupRefs, once]
      apply mem_groupRefsOf_iff.mpr ⟨_, mem, ih⟩

mutual

theorem refersTo_of_mem_groupRefs : (p : Particle) → group ∈ groupRefs p → p.RefersTo group
  | .element _ _, mem => by simp [groupRefs] at mem
  | .wildcard _, mem => by simp [groupRefs] at mem
  | .groupRef occurs name, mem => by
      cases once : occurs.isRepeated with
      | true => simp [groupRefs, once] at mem
      | false =>
          simp only [groupRefs, once] at mem
          obtain rfl := List.mem_singleton.mp mem
          apply RefersTo.here once
  | .group occurs _ particles, mem => by
      cases once : occurs.isRepeated with
      | true => simp [groupRefs, once] at mem
      | false =>
          simp only [groupRefs, once] at mem
          obtain ⟨p, mem, h⟩ := exists_refersTo_of_mem_groupRefsOf particles mem
          apply RefersTo.within once mem h

theorem exists_refersTo_of_mem_groupRefsOf : (particles : List Particle) →
    group ∈ groupRefsOf particles → ∃ p ∈ particles, p.RefersTo group
  | [], mem => by simp [groupRefsOf] at mem
  | p :: rest, mem => by
      rw [groupRefsOf] at mem
      rcases List.mem_append.mp mem with mem | mem
      · use p, List.mem_cons_self
        apply refersTo_of_mem_groupRefs p mem
      · obtain ⟨q, mem, h⟩ := exists_refersTo_of_mem_groupRefsOf rest mem
        use q, List.mem_cons_of_mem p mem

end

end Particle

/-- A group uses those that it refers to. -/
theorem GroupDecl.mem_groupRefs_iff {d : GroupDecl} {group : QName} :
  group ∈ d.groupStructure.groupRefs ↔ d.RefersTo group
  := by
  cases d with
  | model d =>
      constructor
      · intro mem
        obtain ⟨p, mem, h⟩ := Particle.exists_refersTo_of_mem_groupRefsOf _ mem
        apply RefersTo.body mem h
      · rintro (⟨mem, h⟩ | -)
        apply Particle.mem_groupRefsOf_iff.mpr ⟨_, mem, Particle.mem_groupRefs_of_refersTo h⟩
  | «attribute» d =>
      constructor
      · apply RefersTo.inclusion
      · rintro (- | mem)
        apply mem

/-- Of the declarations of one kind that an episode does not know, one refers to another. -/
structure SchemaSet.Refers (s : SchemaSet) (index : Episode.Index) (kind : GroupKind)
    (d e : GroupDecl) : Prop where
  source : d ∈ s.unpublished index kind
  target : e ∈ s.unpublished index kind
  refers : d.RefersTo e.name

/-! ### What an interface extends -/

/-- Linking a set does not change what is to be extended for a group. -/
theorem supertype?_link (set : InterfaceSet) (index : Episode.Index) :
  supertype? (set.link index) index = supertype? set index
  := by
  funext group
  rw [supertype?, supertype?, InterfaceSet.link, SortedMap.get?_mapValues]
  cases set.get? group with
  | none => rfl
  | some i => rfl

theorem GroupDecl.supertypes_link (d : GroupDecl) (set : InterfaceSet) (index : Episode.Index) :
  d.supertypes (set.link index) index = d.supertypes set index
  := by
  rw [supertypes, supertypes, supertype?_link]

/-- An interface of the run extends another one. -/
structure Report.Extends (r : Report) (o : Outline) (t u : TypeRef) : Prop where
  synthesized : ∃ i ∈ r.interfaces, i.typeRef = t
  extended : ∃ d, o.interface? t = some d ∧ u ∈ d.supertypes

namespace Generator

variable {g : Generator} {store : FileStore} {input : Input} {index : Episode.Index} {r : Report}
  {outcome : Outcome} {i j : SynthesizedInterface}

namespace Completed

variable (h : Completed g input index r outcome)
include h

theorem declaration_mem_unpublished (mem : i ∈ r.interfaces) :
  i.declaration ∈ input.schema.unpublished index i.declaration.kind
  := by
  obtain ⟨pending, -⟩ := h.declaration_of_mem_interfaces mem
  obtain ⟨kind, declared⟩ := SchemaSet.mem_pending_iff.mp pending
  have kinds : i.declaration.kind = kind := SchemaSet.kind_of_mem_unpublished declared
  rw [kinds]
  apply declared

/-- Each interface extends those for the groups that its group refers to. -/
theorem supertypes_eq (mem : i ∈ r.interfaces) :
  i.supertypes = (i.declaration.supertypes
    (r.interfaceSet i.declaration.kind) index).foldl addNew []
  := by
  obtain ⟨kind, group, found⟩ := Report.mem_interfaces_iff.mp mem
  obtain ⟨d, declared, -, j, interface, rfl⟩ := h.get?_interfaceSet_eq_some_iff.mp found
  obtain ⟨c, -, rfl⟩ := Outline.interfaceFor?_eq_some_iff.mp interface
  have kinds : d.kind = kind := SchemaSet.kind_of_mem_unpublished declared
  change (d.supertypes (input.outline.interfaceSet (input.schema.unpublished index kind))
    index).foldl addNew [] = (d.supertypes (r.interfaceSet d.kind) index).foldl addNew []
  rw [kinds, h.sets, GroupDecl.supertypes_link]

/-- In the outline behind the run, each interface is declared to extend what it should. -/
theorem exists_interface?_supertypes (mem : i ∈ r.interfaces) :
  ∃ d, outcome.outline.interface? i.typeRef = some d
    ∧ d.supertypes = ((i.declaration.supertypes
      (r.interfaceSet i.declaration.kind) index).map Supertype.typeRef).foldl addNew []
  := by
  obtain ⟨pending, place, -⟩ := h.declaration_of_mem_interfaces mem
  obtain ⟨d, linked⟩ := Option.isSome_iff_exists.mp
    (h.accepts.of_mem pending).isSome_linkedFor?
  have declared := h.declared i.declaration pending place
  rw [linked, Option.map_some] at declared
  obtain ⟨d', found, same⟩ := Option.map_eq_some_iff.mp declared
  have supertypes : d'.supertypes = d.supertypes := by
    change d'.unnested.supertypes = d.unnested.supertypes
    rw [same]
  use d', found
  obtain ⟨c, p, -, -, rfl⟩ := Outline.linkedFor?_inv linked
  rw [supertypes, h.sets, GroupDecl.supertypes_link]
  rfl

/-- An interface is declared to extend the types of the interfaces that it extends. -/
theorem mem_supertypes_iff (mem : i ∈ r.interfaces) {d : InterfaceDecl}
    (found : outcome.outline.interface? i.typeRef = some d) {t : TypeRef} :
  t ∈ d.supertypes ↔ ∃ s ∈ i.supertypes, s.typeRef = t
  := by
  obtain ⟨d', found', supertypes⟩ := h.exists_interface?_supertypes mem
  obtain rfl := Option.some.inj (found'.symm.trans found)
  rw [supertypes, h.supertypes_eq mem, mem_foldl_addNew_iff, List.mem_map]
  simp only [mem_foldl_addNew_iff, List.not_mem_nil, false_or]

/-- Where an interface of the run extends another one, its group refers to that of the other. -/
theorem refers_of_extends
    (fresh : ∀ group p, index.get? group = some p → ∀ i ∈ r.interfaces, p.typeRef ≠ i.typeRef)
    (mem : i ∈ r.interfaces) (mem' : j ∈ r.interfaces)
    (edge : r.Extends outcome.outline i.typeRef j.typeRef) :
  input.schema.Refers index i.declaration.kind i.declaration j.declaration
  := by
  obtain ⟨d, found, extended⟩ := edge.extended
  obtain ⟨d', found', supertypes⟩ := h.exists_interface?_supertypes mem
  obtain rfl := Option.some.inj (found'.symm.trans found)
  rw [supertypes, mem_foldl_addNew_iff, List.mem_map] at extended
  obtain ⟨s, extended, type⟩ := extended.resolve_left List.not_mem_nil
  obtain ⟨group, ref, answer⟩ := List.mem_filterMap.mp extended
  rw [supertype?] at answer
  split at answer
  · next k registered =>
      -- The types of interfaces tell them apart, so the one that was found is the other one.
      obtain rfl := Option.some.inj answer
      have memₖ : k ∈ r.interfaces := Report.mem_interfaces_iff.mpr ⟨_, group, registered⟩
      obtain rfl : k = j := List.inj_on_of_nodup_map h.nodup_typeRef_interfaces memₖ mem' type
      obtain ⟨e, target, name, k', interface, rfl⟩ :=
        h.get?_interfaceSet_eq_some_iff.mp registered
      have declaration : k'.declaration = e := Outline.declaration_of_interfaceFor? interface
      change input.schema.Refers index i.declaration.kind i.declaration k'.declaration
      rw [declaration]
      use h.declaration_mem_unpublished mem, target
      apply GroupDecl.mem_groupRefs_iff.mp
      rw [name]
      apply ref
  · obtain ⟨p, published, rfl⟩ := Option.map_eq_some_iff.mp answer
    apply (fresh group p published j mem' type).elim

/-- Going from interface to interface, one goes from group to group. -/
theorem transGen_refers_of_transGen_extends
    (fresh : ∀ group p, index.get? group = some p → ∀ i ∈ r.interfaces, p.typeRef ≠ i.typeRef)
    (mem : i ∈ r.interfaces) {t : TypeRef}
    (path : Relation.TransGen (r.Extends outcome.outline) i.typeRef t) (mem' : j ∈ r.interfaces)
    (type : j.typeRef = t) :
  Relation.TransGen (input.schema.Refers index i.declaration.kind) i.declaration j.declaration
  := by
  induction path generalizing j with
  | single edge =>
      apply Relation.TransGen.single
      rw [← type] at edge
      apply h.refers_of_extends fresh mem mem' edge
  | tail _ edge ih =>
      obtain ⟨k, memₖ, rfl⟩ := edge.synthesized
      rw [← type] at edge
      have front := ih memₖ rfl
      have last := h.refers_of_extends fresh memₖ mem' edge
      -- A path among groups of one kind ends in a group of that kind.
      obtain ⟨e, -, arrives⟩ := Relation.TransGen.tail'_iff.mp front
      have kinds : k.declaration.kind = i.declaration.kind :=
        SchemaSet.kind_of_mem_unpublished arrives.target
      rw [kinds] at last
      apply front.tail last

end Completed

/-- If no group refers to itself, be it by way of others, then no interface of a run extends
itself, be it by way of others. -/
theorem acyclic_extends_of_result_run
    (load : (g.upstream.load store input.environment).1 = .ok index)
    (h : (g.run store input).result = .ok r)
    (acyclic : ∀ kind, Acyclic (input.schema.Refers index kind))
    (fresh : ∀ group p, index.get? group = some p → ∀ i ∈ r.interfaces, p.typeRef ≠ i.typeRef) :
  Acyclic (r.Extends (g.run store input).outline)
  := by
  intro t circle
  obtain ⟨index', load', completed⟩ := completed_of_result_run h
  obtain rfl := Except.ok.inj (load'.symm.trans load)
  obtain ⟨u, edge, -⟩ := Relation.TransGen.head'_iff.mp circle
  obtain ⟨i, mem, rfl⟩ := edge.synthesized
  apply acyclic i.declaration.kind i.declaration
  apply completed.transGen_refers_of_transGen_extends fresh mem circle mem rfl

end Generator

namespace Sample

/-- In the sample of two model groups, the one refers to the other and to nothing else. -/
theorem eq_of_refers {kind : GroupKind} {d e : GroupDecl}
    (h : dealInput.schema.Refers {} kind d e) :
  d.name = deal.name ∧ e.name = party.name
  := by
  have source := (SchemaSet.mem_unpublished_iff.mp h.source).1
  have ref := GroupDecl.mem_groupRefs_iff.mpr h.refers
  cases kind with
  | attributeGroup => cases source
  | modelGroup =>
      have declared : d ∈ [.model party, .model deal] := source
      simp only [List.mem_cons, List.not_mem_nil, or_false] at declared
      rcases declared with rfl | rfl
      · cases ref
      · exact ⟨rfl, List.mem_singleton.mp ref⟩

theorem acyclic_refers (kind : GroupKind) :
  Acyclic (dealInput.schema.Refers {} kind)
  := by
  intro d circle
  obtain ⟨_, leaves, -⟩ := Relation.TransGen.head'_iff.mp circle
  obtain ⟨_, -, arrives⟩ := Relation.TransGen.tail'_iff.mp circle
  have names := (eq_of_refers leaves).1.symm.trans (eq_of_refers arrives).2
  revert names
  decide

end Sample

/-- In the sample of two model groups, the interface of the one extends that of the other, and
there is no circle. -/
theorem Generator.acyclic_extends_sample :
  ∃ r, (Sample.generator.run {} Sample.dealInput).result = .ok r
    ∧ r.Extends (Sample.generator.run {} Sample.dealInput).outline ⟨"sample", "Deal"⟩
      ⟨"sample", "Party"⟩
    ∧ Acyclic (r.Extends (Sample.generator.run {} Sample.dealInput).outline)
  := by
  obtain ⟨r, ok, made⟩ : ∃ r, (Sample.generator.run {} Sample.dealInput).result = .ok r
      ∧ ∃ i ∈ r.interfaces, i.typeRef = ⟨"sample", "Deal"⟩ :=
    ⟨_, rfl, _, List.mem_cons_self, rfl⟩
  refine ⟨r, ok, ⟨made, _, rfl, List.mem_cons_self⟩, ?_⟩
  have load : (Sample.generator.upstream.load {} Sample.dealInput.environment).1 = .ok {} := rfl
  apply acyclic_extends_of_result_run load ok Sample.acyclic_refers
  intro group p published
  cases published

end GroupInterfaces
