import GroupInterfaces.Proofs.Agreement
import GroupInterfaces.Proofs.Completion

/-!
# What a run leaves alone

A run without builders works on the slots of its own interfaces, takes the placeholders of these
interfaces away, with the methods that create them, and lets classes implement more than they did.
All else in the outline is the same behind the run as before.
-/

namespace GroupInterfaces

/-- The package is the same as another one apart from its types, and from the methods of some
names, which its object factory does not have. -/
structure Package.KeptWithout (names : List String) (p p' : Package) : Prop where
  name : p'.name = p.name
  space : p'.space = p.space
  objectFactory : p'.objectFactory = p.objectFactory.filter (·.name ∉ names)

theorem Package.KeptWithout.of_bare_eq {names : List String} {p p' : Package}
    (h : p'.bare = (p.withoutFactoryMethods names).bare) :
  p.KeptWithout names p'
  where
  name := Package.name_eq_of_bare_eq (p := p.withoutFactoryMethods names) h
  space := Package.space_eq_of_bare_eq (p := p.withoutFactoryMethods names) h
  objectFactory := by
    change p'.bare.objectFactory = _
    rw [h]
    rfl

/-- The class implements what another one does and possibly more behind it, and is the same
otherwise. -/
def GeneratedClass.Extends (c c' : GeneratedClass) : Prop :=
  ∃ implements, c.implements <+: implements ∧ c' = { c with implements }

/-- What is the same in an outline behind a run as before, and what is not, in terms of the
interfaces of the report. -/
structure Report.Frames (r : Report) (before after : Outline) : Prop where
  packages : ∀ name, Option.Rel (Package.KeptWithout (factoryMethods r.interfaces name))
    (before.packages.get? name) (after.packages.get? name)
  slots : ∀ {t}, (∀ i ∈ r.interfaces, i.typeRef ≠ t) → after.slot? t = before.slot? t
  displaced : ∀ i ∈ r.interfaces, before.slot? i.typeRef = none
    ∨ before.slot? i.typeRef = some (.class i.placeholder.qualifiedName)
  placeholders : ∀ i ∈ r.interfaces, ∃ c, before.classForGroup? i.name = some c
    ∧ c.typeRef = i.placeholder ∧ before.classes.get? i.placeholder.qualifiedName = some c
    ∧ after.classes.get? i.placeholder.qualifiedName = none
  classes : ∀ {name}, (∀ i ∈ r.interfaces, i.placeholder.qualifiedName ≠ name) →
    Option.Rel GeneratedClass.Extends (before.classes.get? name) (after.classes.get? name)
  removed : r.removedClasses = r.modelGroupInterfaces.values.map (·.placeholder)
    ++ r.attributeGroupInterfaces.values.map (·.placeholder)
  once : r.removedClasses.Nodup
  kinds : ∀ kind, ∀ i ∈ (r.interfaceSet kind).values, i.declaration.kind = kind
  ordered : ∀ kind,
    (r.interfaceSet kind).values.Pairwise fun i j => compare i.name j.name = .lt

namespace Generator

variable {g : Generator} {store : FileStore} {input : Input} {index : Episode.Index} {r : Report}
  {outcome : Outcome}

namespace Completed

variable (h : Completed g input index r outcome)
include h

/-- The set of each kind has the interfaces under the names of their groups. -/
theorem name_of_get?_interfaceSet {kind : GroupKind} {group : QName} {i : SynthesizedInterface}
    (found : (r.interfaceSet kind).get? group = some i) :
  i.name = group ∧ i.declaration.kind = kind
  := by
  obtain ⟨d, mem, name, j, interface, rfl⟩ := h.get?_interfaceSet_eq_some_iff.mp found
  have declaration : j.declaration = d := Outline.declaration_of_interfaceFor? interface
  constructor
  · apply (congrArg GroupDecl.name declaration).trans name
  · apply (congrArg GroupDecl.kind declaration).trans
    apply SchemaSet.kind_of_mem_unpublished mem

theorem ordered (kind : GroupKind) :
  (r.interfaceSet kind).values.Pairwise fun i j => compare i.name j.name = .lt
  := by
  apply List.pairwise_map.mpr
  apply (r.interfaceSet kind).ascending.imp_of_mem
  rintro ⟨q, i⟩ ⟨q', i'⟩ mem mem' lt
  have name := (h.name_of_get?_interfaceSet (SortedMap.mem_toList_iff.mp mem)).1
  have name' := (h.name_of_get?_interfaceSet (SortedMap.mem_toList_iff.mp mem')).1
  rw [name, name']
  apply lt

/-- The slot of an interface was vacant before the run, or that of the placeholder. -/
theorem slot?_of_mem_interfaces {i : SynthesizedInterface} (mem : i ∈ r.interfaces) :
  input.outline.slot? i.typeRef = none
    ∨ input.outline.slot? i.typeRef = some (.class i.placeholder.qualifiedName)
  := by
  obtain ⟨pending, place, placeholder, -⟩ := h.declaration_of_mem_interfaces mem
  rw [placeholder]
  apply h.accepts.slot?_of_place? pending place

end Completed

/-- A run without builders that succeeds leaves everything alone but the slots of its interfaces,
the placeholders of these with the methods that create them, and what classes implement. It lists
the placeholders that are gone once each, first those of model groups and then those of attribute
groups, in the order of the names of the groups. -/
theorem frames_of_result_run (keyed : input.outline.Keyed)
    (plain : g.settings.declareBuilderInterface = false)
    (h : (g.run store input).result = .ok r) :
  r.Frames input.outline (g.run store input).outline
  := by
  obtain ⟨index, o, -, completed, settled, built⟩ := exists_settled_of_result_run h
  obtain same : (g.run store input).outline = o := built.eq_of_unwanted plain
  rw [same]
  have removed := settled.removed keyed
  constructor
  · intro name
    have bare := settled.packages name
    cases found : input.outline.packages.get? name with
    | none =>
        rw [found, Option.map_none, Option.map_eq_none_iff] at bare
        rw [bare]
        apply Option.Rel.none
    | some p =>
        rw [found, Option.map_some] at bare
        obtain ⟨p', found', bare⟩ := Option.map_eq_some_iff.mp bare
        rw [found']
        apply Option.Rel.some
        apply Package.KeptWithout.of_bare_eq bare
  · intro t apart
    apply settled.kept (completed.typeRef_ne_iff.mp apart)
  · intro i mem
    apply completed.slot?_of_mem_interfaces mem
  · intro i mem
    obtain ⟨-, place, placeholder, -⟩ := completed.declaration_of_mem_interfaces mem
    obtain ⟨c, found, type, -, registered⟩ := keyed.exists_placeholder place
    rw [placeholder]
    use c, found, type, registered
    rw [settled.classes, if_pos ⟨i, mem, by rw [placeholder]⟩]
  · intro name apart
    have remains : ¬ ∃ i ∈ r.interfaces, i.placeholder.qualifiedName = name := by
      rintro ⟨i, mem, here⟩
      apply apart i mem here
    rw [settled.classes, if_neg remains]
    cases input.outline.classes.get? name with
    | none => apply Option.Rel.none
    | some c =>
        apply Option.Rel.some
        apply c.exists_bound_eq
  · rw [removed, Report.interfaces, List.map_append]
  · have distinct := completed.nodup_placeholder_interfaces keyed
    rw [removed]
    apply List.Nodup.of_map TypeRef.qualifiedName
    rw [List.map_map]
    apply distinct
  · intro kind i mem
    obtain ⟨group, found⟩ := SortedMap.mem_values_iff.mp mem
    apply (completed.name_of_get?_interfaceSet found).2
  · apply completed.ordered

/-- In the sample, the run leaves alone what it should. -/
theorem frames_sample :
  ∃ r, (Sample.generator.run {} Sample.input).result = .ok r
    ∧ r.Frames Sample.outline (Sample.generator.run {} Sample.input).outline
  := by
  obtain ⟨r, ok⟩ : ∃ r, (Sample.generator.run {} Sample.input).result = .ok r := ⟨_, rfl⟩
  use r, ok
  have keyed : Sample.input.outline.Keyed := fun _ _ => Sample.wellKept.keyed
  apply frames_of_result_run keyed rfl ok

end Generator

end GroupInterfaces
